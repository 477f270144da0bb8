import TwinNode.Console.Emoji
import TwinNode.Console.Literal
import TwinNode.Console.Style
import TwinNode.Text.Letter

/-! A text for the console may hold tags in brackets: an opening tag begins a style, a
closing tag ends one. A tag begins with a small letter or one of `#/@`; other brackets are
plain text. A backslash takes the meaning from the bracket behind it. On a plain console
styles are not seen, so a text is shown without its tags. -/

namespace TwinNode.Console

/-- A tag: its name, and what stands behind the first equals sign. -/
structure Tag where
  name : List Char
  parameters : Option (List Char) := none
  deriving DecidableEq, Repr

namespace Tag

/-- The tag with the given text between its brackets. -/
def ofInside (inside : List Char) : Tag :=
  let name := inside.takeWhile (· != '=')
  ⟨name, if name.length < inside.length then some (inside.drop (name.length + 1)) else none⟩

/-- Whether the text between brackets can begin so. -/
def begins (c : Char) : Bool :=
  'a' ≤ c && c ≤ 'z' || c == '#' || c == '/' || c == '@'

end Tag

/-- Splits a text that begins with a tag into what stands between the brackets and the rest. -/
def tagAtStart? : List Char → Option (List Char × List Char)
  | '[' :: c :: cs =>
    let inside := cs.takeWhile fun d => d != '[' && d != ']'
    match Tag.begins c, cs.drop inside.length with
    | true, ']' :: rest => some (c :: inside, rest)
    | _, _ => none
  | _ => none

theorem tagAtStart?_length {cs inside rest : List Char} (h : tagAtStart? cs = some (inside, rest)) :
    rest.length < cs.length := by
  unfold tagAtStart? at h
  split at h
  · rename_i c tail
    dsimp only at h
    split at h
    · rename_i rest' _ hdrop
      cases h
      have hlen := congrArg List.length hdrop
      simp only [List.length_drop, List.length_cons] at hlen ⊢
      omega
    · simp at h
  · simp at h

/-- A text cut at its first tag. -/
structure TagSplit where
  before : List Char
  backslashes : Nat
  inside : List Char
  rest : List Char
  deriving DecidableEq, Repr

def TagSplit.push (c : Char) (s : TagSplit) : TagSplit :=
  if c = '\\' ∧ s.before = [] then { s with backslashes := s.backslashes + 1 }
  else { s with before := c :: s.before }

/-- Cuts a text at its first tag, if it has one. -/
def splitAtTag? : List Char → Option TagSplit
  | [] => none
  | c :: cs =>
    match tagAtStart? (c :: cs) with
    | some (inside, rest) => some ⟨[], 0, inside, rest⟩
    | none => (splitAtTag? cs).map (·.push c)

theorem splitAtTag?_length {cs : List Char} {s : TagSplit} (h : splitAtTag? cs = some s) :
    s.rest.length < cs.length := by
  induction cs generalizing s with
  | nil => simp [splitAtTag?] at h
  | cons c cs ih =>
    simp only [splitAtTag?] at h
    split at h
    · rename_i hstart
      cases h
      exact tagAtStart?_length hstart
    · obtain ⟨t, ht, rfl⟩ := Option.map_eq_some_iff.1 h
      have hlt := ih ht
      simp only [TagSplit.push]
      split <;> exact Nat.lt_succ_of_lt hlt

/-- The text with one more backslash before each tag, and twice as many as were there before. -/
def escapeTags (cs : List Char) : List Char :=
  match _h : splitAtTag? cs with
  | none => cs
  | some s =>
    s.before ++ List.replicate (2 * s.backslashes + 1) '\\' ++ '[' ::
      s.inside ++ ']' :: escapeTags s.rest
termination_by cs.length
decreasing_by exact splitAtTag?_length _h

/-- A value as it is written into a text with markup. A single backslash at the end is doubled, lest
it take the meaning from what follows. -/
def escape (value : String) : String :=
  let escaped := escapeTags value.toList
  match escaped.reverse with
  | '\\' :: '\\' :: _ => String.ofList escaped
  | '\\' :: _ => String.ofList (escaped ++ ['\\'])
  | _ => String.ofList escaped

inductive Piece where
  | text (cs : List Char)
  | tag (t : Tag)
  deriving DecidableEq, Repr

/-- The parts of a text. Of the backslashes before a tag half are shown; an odd one makes the tag
plain. -/
def pieces (cs : List Char) : List Piece :=
  match _h : splitAtTag? cs with
  | none => [.text cs]
  | some s =>
    .text s.before :: .text (List.replicate (s.backslashes / 2) '\\') ::
      (if s.backslashes % 2 = 1 then .text ('[' :: s.inside ++ [']'])
        else .tag (.ofInside s.inside)) ::
      pieces s.rest
termination_by cs.length
decreasing_by exact splitAtTag?_length _h

/-- The text without the backslashes that stand before brackets, one for each bracket. -/
def dropEscapes : List Char → List Char
  | '\\' :: '[' :: cs => '[' :: dropEscapes cs
  | c :: cs => c :: dropEscapes cs
  | [] => []

inductive MarkupFault where
  /-- A closing tag has a name that no open tag has. -/
  | unmatched (name : List Char)
  /-- A closing tag without a name stands where no tag is open. -/
  | nothingOpen
  /-- An action cannot be read. -/
  | unreadableAction (action : List Char)
  /-- A color in a tag has a number that cannot be read. -/
  | unreadableNumber (style : List Char)
  deriving DecidableEq, Repr

def isAction (action : List Char) : Bool :=
  let name := action.takeWhile (· != '(')
  let parts := action.drop name.length
  let isCall := name.all (fun c => Text.isWord c || c == '.') &&
    (parts.isEmpty || parts.getLast? == some ')' && !parts.contains '\n')
  if isCall then parts.isEmpty || isLiteral parts else isLiteral action

/-- A tag that is open, and where it was opened. -/
structure OpenTag where
  start : Nat
  tag : Tag
  deriving DecidableEq, Repr

structure StyledSpan where
  start : Nat
  stop : Nat
  style : List Char
  deriving DecidableEq, Repr

/-- The part of a text in the style of a tag, which is not that of an event. -/
def OpenTag.span (o : OpenTag) (stop : Nat) : StyledSpan :=
  ⟨o.start, stop, o.tag.name ++ (o.tag.parameters.elim [] (' ' :: ·))⟩

/-- The parts of a text that a tag styles which is closed. A tag for an event gives no style; it may
name an action. -/
def OpenTag.close (o : OpenTag) (stop : Nat) : Except MarkupFault (List StyledSpan) :=
  match o.tag.name, o.tag.parameters with
  | '@' :: _, none => .ok []
  | '@' :: _, some action =>
    if action.isEmpty || isAction (Text.trim action) then .ok []
    else .error (.unreadableAction action)
  | _, _ => .ok [o.span stop]

/-- The normal form of what a tag is named for. -/
def tagStyle (name : List Char) : Except MarkupFault (List Char) :=
  match normalStyle? name with
  | some style => .ok style
  | none => .error (.unreadableNumber name)

/-- The open tags behind a tag, the last one first, and what it closes. A closing tag with a name
closes the last open tag with that name, and one without a name the last open tag. -/
def Tag.follow (column : Nat) (opened : List OpenTag) (t : Tag) :
    Except MarkupFault (List OpenTag × List StyledSpan) :=
  match t.name with
  | '/' :: name =>
    if (Text.trim name).isEmpty then
      match opened with
      | [] => .error .nothingOpen
      | last :: others => (last.close column).map (others, ·)
    else (tagStyle (Text.trim name)).bind fun wanted =>
      match opened.find? (·.tag.name == wanted) with
      | none => .error (.unmatched wanted)
      | some found => (found.close column).map (opened.eraseP (·.tag.name == wanted), ·)
  | name => (tagStyle name).map fun style => (⟨column, style, t.parameters⟩ :: opened, [])

/-- The controls that a console takes as commands: bell, backspace, vertical tab, form feed,
carriage return. -/
def commandControls : List Char := ['\x07', '\x08', '\x0b', '\x0c', '\x0d']

def shownText (cs : List Char) : List Char :=
  (replaceNames (dropEscapes cs)).filter fun c => !commandControls.contains c

/-- A text for the console and the styles of its parts. -/
structure StyledText where
  text : List Char
  spans : List StyledSpan
  deriving DecidableEq, Repr

/-- What is shown of the parts of a text from a column on when the given tags are open. -/
def showPieces (column : Nat) (opened : List OpenTag) : List Piece → Except MarkupFault StyledText
  | [] => .ok ⟨[], opened.map (·.span column)⟩
  | .text cs :: rest =>
    (showPieces (column + (shownText cs).length) opened rest).map fun s =>
      { s with text := shownText cs ++ s.text }
  | .tag t :: rest =>
    (t.follow column opened).bind fun (opened, closed) =>
      (showPieces column opened rest).map fun s => { s with spans := closed ++ s.spans }

/-- The text with its styles that a text with markup stands for. -/
def render (markup : String) : Except MarkupFault StyledText :=
  showPieces 0 [] (pieces markup.toList)

/-- Whether a part of a text is still there when the text is divided at its line breaks and tabs; in
a text without them also an empty part is. -/
def StyledSpan.isDrawn (s : StyledSpan) (text : List Char) : Bool :=
  if text.any fun c => c == '\n' || c == '\t' then ((text.take s.stop).drop s.start).any (· != '\n')
  else true

/-- The text as it is drawn, if the styles of its parts can be read. -/
def StyledText.draw (t : StyledText) : Except MarkupFault (List Char) :=
  match t.spans.find? fun s => s.isDrawn t.text && (normalStyle? s.style).isNone with
  | some s => .error (.unreadableNumber s.style)
  | none => .ok t.text

end TwinNode.Console
