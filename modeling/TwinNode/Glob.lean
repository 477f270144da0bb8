/-! A pattern is matched against a whole text: `*` stands for any stretch, slashes included,
`?` for any character, and brackets for one of a set of characters. A bracket that is never
closed stands for itself.

`accepts` decides a pattern with one row of truth values per token, so it takes time
proportional to the length of the pattern times that of the text. -/

namespace TwinNode.Glob

inductive Token where
  | stretch
  | any
  | char (c : Char)
  /-- A character that is one of `members` or in one of `ranges`, or that is neither if
  `negated`. -/
  | oneOf (negated : Bool) (members : List Char) (ranges : List (Char × Char))
  deriving DecidableEq, Repr

/-- Whether a token that stands for one character accepts it. -/
def Token.acceptsChar (c : Char) : Token → Bool
  | stretch => false
  | any => true
  | char d => c == d
  | oneOf negated members ranges =>
    negated != (members.contains c || ranges.any fun r => r.1 ≤ c && c ≤ r.2)

/-- Splits off the inside of a bracket, if it is closed. A closing bracket at its very beginning,
also after an exclamation mark, belongs to the inside. -/
def bracket? (cs : List Char) : Option (List Char × List Char) :=
  let lead := match cs with
    | '!' :: ']' :: _ => 2
    | '!' :: _ => 1
    | ']' :: _ => 1
    | _ => 0
  let rest := cs.drop lead
  if rest.contains ']' then
    some (cs.take lead ++ rest.takeWhile (· != ']'), (rest.dropWhile (· != ']')).drop 1)
  else none

/-- Cuts the inside of a bracket at its hyphens, where each piece has at least `least`
characters. -/
def pieces (least : Nat) (fuel : Nat) (cs : List Char) : List (List Char) :=
  match fuel with
  | 0 => [cs]
  | fuel + 1 =>
    let head := cs.take least ++ (cs.drop least).takeWhile (· != '-')
    match cs.drop head.length with
    | [] => [cs]
    -- A hyphen at the end is a member.
    | [_] => [head ++ ['-']]
    | _ :: rest => head :: pieces 2 fuel rest

/-- Puts a piece in front of others. Its last character and the first of the next piece are the ends
of a range; if the range is empty, both go and the pieces become one. -/
def consPiece (piece : List Char) : List (List Char) → List (List Char)
  | [] => [piece]
  | next :: others =>
    match piece.getLast?, next.head? with
    | some low, some high =>
      if high < low then (piece.dropLast ++ next.tail) :: others else piece :: next :: others
    | _, _ => piece :: next :: others

/-- The ranges between neighbouring pieces. -/
def rangesOf : List (List Char) → List (Char × Char)
  | piece :: next :: others =>
    match piece.getLast?, next.head? with
    | some low, some high => (low, high) :: rangesOf (next :: others)
    | _, _ => rangesOf (next :: others)
  | _ => []

/-- The token of a bracket. It is negated if the merged pieces begin with an exclamation mark; a
hyphen right behind that mark is a member and no range. -/
def bracketToken (inside : List Char) : Token :=
  let least := if inside.head? = some '!' then 2 else 1
  match (pieces least inside.length inside).foldr consPiece [] with
  | ['!'] :: next :: others =>
    .oneOf true ('-' :: (next :: others).flatten) (rangesOf (next :: others))
  | ('!' :: piece) :: others => .oneOf true (piece ++ others.flatten) (rangesOf (piece :: others))
  | merged => .oneOf false merged.flatten (rangesOf merged)

/-- The tokens of a pattern; at most one per character. -/
def tokensFrom : Nat → List Char → List Token
  | 0, _ => []
  | _ + 1, [] => []
  | fuel + 1, '*' :: cs => .stretch :: tokensFrom fuel cs
  | fuel + 1, '?' :: cs => .any :: tokensFrom fuel cs
  | fuel + 1, '[' :: cs =>
    match bracket? cs with
    | some (inside, rest) => bracketToken inside :: tokensFrom fuel rest
    | none => .char '[' :: tokensFrom fuel cs
  | fuel + 1, c :: cs => .char c :: tokensFrom fuel cs

def tokens (pattern : String) : List Token :=
  tokensFrom pattern.toList.length pattern.toList

/-- For each place of a text, its end included, whether a token and what follows it match from
there, given the same for what follows it. -/
def Token.row (text : List Char) (t : Token) (after : List Bool) : List Bool :=
  match t with
  -- A stretch ends here, or it takes one more character.
  | stretch => after.foldr (fun ok row => (ok || row.headD false) :: row) []
  | t => List.zipWith (fun c ok => t.acceptsChar c && ok) text after.tail ++ [false]

def rows (ts : List Token) (text : List Char) : List Bool :=
  ts.foldr (Token.row text) (List.replicate text.length false ++ [true])

/-- Whether tokens match the whole text. -/
def accepts (ts : List Token) (text : List Char) : Bool :=
  (rows ts text).headD false

/-- What tokens stand for: a stretch for any text, every other token for one character. -/
inductive Matches : List Token → List Char → Prop where
  | nil : Matches [] []
  | stretchEnd {ts cs} : Matches ts cs → Matches (.stretch :: ts) cs
  | stretchMore {ts c cs} : Matches (.stretch :: ts) cs → Matches (.stretch :: ts) (c :: cs)
  | char {t ts c cs} : t.acceptsChar c = true → Matches ts cs → Matches (t :: ts) (c :: cs)

theorem row_stretch (c : Char) (cs : List Char) (ok : Bool) (after : List Bool) :
    Token.row (c :: cs) .stretch (ok :: after) =
      (ok || (Token.row cs .stretch after).headD false) :: Token.row cs .stretch after := by
  simp [Token.row]

theorem row_char {t : Token} (h : t ≠ .stretch) (c : Char) (cs : List Char) (ok next : Bool)
    (after : List Bool) :
    Token.row (c :: cs) t (ok :: next :: after) =
      (t.acceptsChar c && next) :: Token.row cs t (next :: after) := by
  cases t <;> simp_all [Token.row]

theorem length_row (t : Token) {text : List Char} {after : List Bool}
    (h : after.length = text.length + 1) : (Token.row text t after).length = text.length + 1 := by
  cases t with
  | stretch =>
    have hlen : (Token.row text .stretch after).length = after.length := by
      simp only [Token.row]
      clear h
      induction after with
      | nil => rfl
      | cons ok after ih => exact congrArg (· + 1) ih
    rw [hlen, h]
  | any | char | oneOf => simp [Token.row, h]

theorem length_rows (ts : List Token) (text : List Char) :
    (rows ts text).length = text.length + 1 := by
  induction ts with
  | nil => simp [rows]
  | cons t ts ih => exact length_row t ih

/-- The rows of a text go on as those of the text without its first character. -/
theorem rows_cons (ts : List Token) (c : Char) (cs : List Char) :
    rows ts (c :: cs) = accepts ts (c :: cs) :: rows ts cs := by
  -- On the tokens, the last one first, as the rows are made.
  induction ts with
  | nil => simp [rows, accepts, List.replicate_succ]
  | cons t ts ih =>
    have hlen := length_rows ts cs
    have step : ∀ text, rows (t :: ts) text = Token.row text t (rows ts text) := fun _ => rfl
    obtain ⟨next, after, hr⟩ : ∃ next after, rows ts cs = next :: after := by
      cases h : rows ts cs with
      | nil => simp [h] at hlen
      | cons next after => exact ⟨next, after, rfl⟩
    obtain ⟨ok, h⟩ : ∃ ok, rows (t :: ts) (c :: cs) = ok :: rows (t :: ts) cs := by
      rw [step, step, ih, hr]
      by_cases ht : t = .stretch
      · exact ⟨_, ht ▸ row_stretch c cs _ _⟩
      · exact ⟨_, row_char ht c cs _ _ _⟩
    rw [accepts, h]
    rfl

theorem accepts_nil (cs : List Char) : accepts [] cs = cs.isEmpty := by
  cases cs <;> simp [accepts, rows, List.replicate_succ]

theorem accepts_stretch_nil (ts : List Token) : accepts (.stretch :: ts) [] = accepts ts [] := by
  have hlen := length_rows ts []
  cases h : rows ts [] with
  | nil => simp [h] at hlen
  | cons ok after =>
    have hafter : after = [] := by simpa [h] using hlen
    have step : rows (.stretch :: ts) [] = Token.row [] .stretch (rows ts []) := rfl
    simp [accepts, step, h, hafter, Token.row]

theorem accepts_stretch_cons (ts : List Token) (c : Char) (cs : List Char) :
    accepts (.stretch :: ts) (c :: cs) = (accepts ts (c :: cs) || accepts (.stretch :: ts) cs) := by
  have step : ∀ text, rows (.stretch :: ts) text = Token.row text .stretch (rows ts text) :=
    fun _ => rfl
  rw [accepts, step, rows_cons, row_stretch]
  rfl

theorem accepts_char_nil {t : Token} (h : t ≠ .stretch) (ts : List Token) :
    accepts (t :: ts) [] = false := by
  have step : rows (t :: ts) [] = Token.row [] t (rows ts []) := rfl
  cases t <;> simp_all [accepts, Token.row]

theorem accepts_char_cons {t : Token} (h : t ≠ .stretch) (ts : List Token)
    (c : Char) (cs : List Char) :
    accepts (t :: ts) (c :: cs) = (t.acceptsChar c && accepts ts cs) := by
  have hlen := length_rows ts cs
  have step : rows (t :: ts) (c :: cs) = Token.row (c :: cs) t (rows ts (c :: cs)) := rfl
  cases hr : rows ts cs with
  | nil => simp [hr] at hlen
  | cons next after =>
    rw [accepts, step, rows_cons, hr, row_char h]
    simp [accepts, hr]

theorem matches_of_accepts {ts : List Token} {cs : List Char} (h : accepts ts cs = true) :
    Matches ts cs := by
  induction ts generalizing cs with
  | nil =>
    rw [accepts_nil, List.isEmpty_iff] at h
    exact h ▸ .nil
  | cons t ts ih =>
    by_cases ht : t = .stretch
    · subst ht
      induction cs with
      | nil => exact .stretchEnd (ih (accepts_stretch_nil ts ▸ h))
      | cons c cs ihc =>
        rw [accepts_stretch_cons, Bool.or_eq_true] at h
        rcases h with h | h
        · exact .stretchEnd (ih h)
        · exact .stretchMore (ihc h)
    · cases cs with
      | nil => simp [accepts_char_nil ht] at h
      | cons c cs =>
        rw [accepts_char_cons ht, Bool.and_eq_true] at h
        exact .char h.1 (ih h.2)

theorem accepts_of_matches {ts : List Token} {cs : List Char} (h : Matches ts cs) :
    accepts ts cs = true := by
  induction h with
  | nil => rfl
  | @stretchEnd ts cs _ ih =>
    cases cs with
    | nil => rw [accepts_stretch_nil, ih]
    | cons c cs => rw [accepts_stretch_cons, ih, Bool.true_or]
  | stretchMore _ ih => rw [accepts_stretch_cons, ih, Bool.or_true]
  | @char t ts c cs hc _ ih =>
    have ht : t ≠ .stretch := fun e => by simp [e, Token.acceptsChar] at hc
    rw [accepts_char_cons ht, hc, ih, Bool.and_self]

theorem accepts_iff {ts : List Token} {cs : List Char} : accepts ts cs = true ↔ Matches ts cs :=
  ⟨matches_of_accepts, accepts_of_matches⟩

def isMatch (pattern text : String) : Bool :=
  accepts (tokens pattern) text.toList

def excludesFile (patterns : List String) (path : String) : Bool :=
  patterns.any (isMatch · path)

/-- Whether a directory is excluded as a whole: a pattern has to match the directory with `/**`
after it. -/
def excludesDirectory (patterns : List String) (path : String) : Bool :=
  excludesFile patterns (path ++ "/**")

end TwinNode.Glob
