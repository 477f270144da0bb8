import TwinNode.Json.Value
import TwinNode.Text.Digit
import TwinNode.Text.Half
import TwinNode.Text.Hexadecimal
import TwinNode.Text.Spelling

/-! The reader keeps the open lists and objects on a stack and goes through the text once,
from left to right. The first fault ends it. A fault is known by the text that is left where
it stands, and its line and column follow from that.

Besides the standard's values, `NaN`, `Infinity` and `-Infinity` are read. An integer of
more than `Text.maxDigits` digits is no fault of syntax, and neither are lists and objects
that nest deeper than there is room for; such texts are refused on their own. -/

namespace TwinNode.Json

open TwinNode.Text

inductive Problem where
  | noValue
  | noPropertyName
  | noColon
  | noComma
  | extraData
  | openString
  | controlCharacter
  | unknownEscape
  | brokenCodePoint
  | byteOrderMark
  deriving DecidableEq, Repr

def Problem.message : Problem → String
  | noValue => "Expecting value"
  | noPropertyName => "Expecting property name enclosed in double quotes"
  | noColon => "Expecting ':' delimiter"
  | noComma => "Expecting ',' delimiter"
  | extraData => "Extra data"
  | openString => "Unterminated string starting at"
  | controlCharacter => "Invalid control character at"
  | unknownEscape => "Invalid \\escape"
  | brokenCodePoint => "Invalid \\uXXXX escape"
  | byteOrderMark => "Unexpected UTF-8 BOM (decode using utf-8-sig)"

/-- What is too much to be read, though it is well written. -/
inductive Excess where
  | longInteger
  | deepNesting
  deriving DecidableEq, Repr

/-- Why reading ends early. -/
inductive Failure where
  /-- A problem, and the text that is left where it stands. -/
  | malformed (problem : Problem) (rest : List Char)
  | excess (e : Excess)
  deriving DecidableEq, Repr

/-- The text after the blanks that JSON allows between its tokens. -/
def skipBlanks (cs : List Char) : List Char :=
  cs.dropWhile fun c => c == ' ' || c == '\t' || c == '\n' || c == '\r'

theorem skipBlanks_suffix (cs : List Char) : skipBlanks cs <:+ cs := List.dropWhile_suffix _

theorem length_skipBlanks {cs rest : List Char} (h : skipBlanks cs = rest) :
    rest.length ≤ cs.length :=
  h ▸ (skipBlanks_suffix cs).length_le

/-- Reading a text leaves an end of it, and something has been read. -/
def Leaves (cs rest : List Char) : Prop := ∃ c, c :: rest <:+ cs

namespace Leaves

variable {cs rest after : List Char}

theorem cons (c : Char) (h : rest <:+ cs) : Leaves (c :: cs) rest := by
  obtain ⟨read, rfl⟩ := h
  exact ⟨(c :: read).getLast (List.cons_ne_nil _ _), (c :: read).dropLast, by
    rw [List.append_cons, List.dropLast_concat_getLast, List.cons_append]⟩

theorem trans_suffix (h : Leaves cs rest) (hafter : after <:+ rest) : Leaves cs after := by
  obtain ⟨c, hc⟩ := h
  obtain ⟨d, hd⟩ := cons c hafter
  exact ⟨d, hd.trans hc⟩

theorem of_suffix (hrest : rest <:+ cs) (h : Leaves rest after) : Leaves cs after := by
  obtain ⟨c, hc⟩ := h
  exact ⟨c, hc.trans hrest⟩

theorem suffix (h : Leaves cs rest) : rest <:+ cs := by
  obtain ⟨c, hc⟩ := h
  exact (List.suffix_cons c rest).trans hc

theorem length_lt (h : Leaves cs rest) : rest.length < cs.length := by
  obtain ⟨_, hc⟩ := h
  exact hc.length_le

end Leaves

theorem leaves_of_skipBlanks {c : Char} {cs rest : List Char} (h : skipBlanks cs = c :: rest) :
    Leaves cs rest :=
  ⟨c, h ▸ skipBlanks_suffix cs⟩

/-- The character that a backslash and `c` write. -/
def escape? (c : Char) : Option Char :=
  if c = '\x22' ∨ c = '\\' ∨ c = '/' then some c
  else if c = 'b' then some '\x08'
  else if c = 'f' then some '\x0c'
  else if c = 'n' then some '\n'
  else if c = 'r' then some '\r'
  else if c = 't' then some '\t'
  else none

/-- The four digits of a code point, if at least one character follows them, and what follows. -/
def fourDigits? : List Char → Option (List Char × List Char)
  | a :: b :: c :: d :: e :: rest => some ([a, b, c, d], e :: rest)
  | _ => none

theorem fourDigits?_leaves {cs : List Char} {split : List Char × List Char}
    (h : fourDigits? cs = some split) :
    Leaves cs split.2 := by
  unfold fourDigits? at h
  split at h
  · next a b c d e rest =>
    obtain rfl := Option.some.inj h
    exact .cons a ⟨[b, c, d], rfl⟩
  · cases h

/-- The code point escape after a backslash and a `u`: its character and the text after it. The two
halves of a surrogate pair, if both are there, make one character. -/
def codePoint (cs : List Char) : Except Failure (Char × List Char) :=
  match fourDigits? cs with
  | none => .error (.malformed .brokenCodePoint ('u' :: cs))
  | some (digits, rest) =>
    match hex? digits with
    | none => .error (.malformed .brokenCodePoint ('u' :: cs))
    | some high =>
      match rest with
      | '\\' :: 'u' :: more =>
        if 0xD800 ≤ high ∧ high < 0xDC00 then
          match fourDigits? more with
          | none => .ok (charOf high, rest)
          | some (digits, after) =>
            match hex? digits with
            | none => .error (.malformed .brokenCodePoint ('u' :: more))
            | some low =>
              if 0xDC00 ≤ low ∧ low < 0xE000 then
                .ok (charOf (0x10000 + (high - 0xD800) * 0x400 + (low - 0xDC00)), after)
              else .ok (charOf high, rest)
        else .ok (charOf high, rest)
      | _ => .ok (charOf high, rest)

theorem codePoint_leaves {cs : List Char} {read : Char × List Char} (h : codePoint cs = .ok read) :
    Leaves cs read.2 := by
  unfold codePoint at h
  split at h
  · cases h
  · next digits rest hdigits =>
    have hrest := fourDigits?_leaves hdigits
    split at h
    · cases h
    · split at h
      · next more =>
        split at h
        · split at h
          · cases h
            exact hrest
          · next hafter =>
            have hlow :=
              hrest.trans_suffix ((fourDigits?_leaves hafter).suffix.trans ⟨['\\', 'u'], rfl⟩)
            split at h
            · cases h
            · split at h
              · rw [← congrArg Prod.snd (Except.ok.inj h)]
                exact hlow
              · cases h
                exact hrest
        · cases h
          exact hrest
      · cases h
        exact hrest

theorem codePoint_length {cs : List Char} {read : Char × List Char} (h : codePoint cs = .ok read) :
    read.2.length < cs.length :=
  (codePoint_leaves h).length_lt

/-- Reads a string from the character after its opening quote. `opening` is the text from that quote
on and `done` what has been read, last character first. -/
def string (opening done : List Char) : List Char → Except Failure (List Char × List Char)
  | [] => .error (.malformed .openString opening)
  | '\x22' :: rest => .ok (done.reverse, rest)
  | ['\\'] => .error (.malformed .openString opening)
  | '\\' :: 'u' :: rest =>
    match _h : codePoint rest with
    | .error e => .error e
    | .ok (c, rest) => string opening (c :: done) rest
  | '\\' :: e :: rest =>
    match escape? e with
    | none => .error (.malformed .unknownEscape ('\\' :: e :: rest))
    | some c => string opening (c :: done) rest
  | c :: rest =>
    if c.toNat < 0x20 then .error (.malformed .controlCharacter (c :: rest))
    else string opening (c :: done) rest
termination_by cs => cs.length
decreasing_by
  · have := codePoint_length _h
    simp only [List.length_cons] at this ⊢
    omega
  · simp only [List.length_cons]; omega
  · simp only [List.length_cons]; omega

theorem string_leaves {opening done cs : List Char} {read : List Char × List Char}
    (h : string opening done cs = .ok read) : Leaves cs read.2 := by
  fun_induction string opening done cs with
  | case1 | case3 | case4 | case6 | case8 => simp_all
  | case2 done rest =>
    cases h
    exact .cons _ List.suffix_rfl
  | case5 done rest c after hc ih =>
    exact ((codePoint_leaves hc).trans_suffix (ih h).suffix).of_suffix ⟨['\\', 'u'], rfl⟩
  | case7 done e rest _ c _ ih => exact (ih h).of_suffix ⟨['\\', e], rfl⟩
  | case9 done c rest _ _ _ _ _ ih => exact (ih h).of_suffix (List.suffix_cons c rest)

/-- A row of digits without a superfluous zero at its beginning. -/
def wholeDigits : List Char → List Char
  | '0' :: _ => ['0']
  | cs => cs.takeWhile Char.isDigit

def fractionDigits : List Char → List Char
  | '.' :: cs => cs.takeWhile Char.isDigit
  | _ => []

/-- The exponent of a number and the text after it, if there is one. -/
def exponent? : List Char → Option (Int × List Char)
  | e :: cs =>
    if e = 'e' ∨ e = 'E' then
      let signed := cs.head? == some '-' || cs.head? == some '+'
      let unsigned := if signed then cs.tail else cs
      let digits := unsigned.takeWhile Char.isDigit
      if digits.isEmpty then none
      else
        let size : Int := readDigits digits
        some (if cs.head? == some '-' then -size else size, unsigned.drop digits.length)
    else none
  | [] => none

theorem unsigned_suffix (negative : Bool) (cs : List Char) :
    (if negative then cs.tail else cs) <:+ cs := by
  split
  · exact List.tail_suffix cs
  · exact List.suffix_rfl

theorem exponent?_suffix {cs : List Char} {read : Int × List Char} (h : exponent? cs = some read) :
    read.2 <:+ cs := by
  unfold exponent? at h
  split at h
  · next e cs =>
    split at h
    · dsimp only at h
      have hunsigned := unsigned_suffix (cs.head? == some '-' || cs.head? == some '+') cs
      generalize (if (cs.head? == some '-' || cs.head? == some '+') = true then cs.tail else cs) =
        unsigned at h hunsigned
      split at h
      · cases h
      · obtain rfl := Option.some.inj h
        exact ((List.drop_suffix _ _).trans hunsigned).trans (List.suffix_cons e cs)
    · cases h
  · cases h

def number (cs : List Char) : Except Failure (Value × List Char) :=
  let negative := cs.head? == some '-'
  let unsigned := if negative then cs.tail else cs
  let whole := wholeDigits unsigned
  if whole.isEmpty then .error (.malformed .noValue cs)
  else
    let rest := unsigned.drop whole.length
    let fraction := fractionDigits rest
    let afterFraction := if fraction.isEmpty then rest else rest.drop (fraction.length + 1)
    match exponent? afterFraction with
    | some (exponent, rest) =>
      .ok (.real (.decimal negative (readDigits (whole ++ fraction)) (exponent - fraction.length)),
        rest)
    | none =>
      if fraction.isEmpty then
        match readDigits? whole with
        | none => .error (.excess .longInteger)
        | some n => .ok (.int (if negative then -n else n), afterFraction)
      else
        .ok (.real (.decimal negative (readDigits (whole ++ fraction)) (-fraction.length)),
          afterFraction)

theorem wholeDigits_isPrefix (cs : List Char) : wholeDigits cs <+: cs := by
  unfold wholeDigits
  split
  · exact ⟨_, rfl⟩
  · exact List.takeWhile_prefix _

/-- A number is a whole number or a real one, it is followed by what is left, and an integer has too
many digits only if its digits do. -/
theorem number_cases (cs : List Char) :
    (∃ problem, number cs = .error (.malformed problem cs)) ∨
    (number cs = .error (.excess .longInteger) ∧ ∃ unsigned, unsigned <:+ cs ∧
      readDigits? (wholeDigits unsigned) = none) ∨
    ∃ v rest, number cs = .ok (v, rest) ∧ Leaves cs rest ∧
      ((∃ n, v = .int n) ∨ ∃ x, v = .real x) := by
  have hunsigned := unsigned_suffix (cs.head? == some '-') cs
  unfold number
  dsimp only
  generalize (if (cs.head? == some '-') = true then cs.tail else cs) = unsigned at hunsigned ⊢
  have hprefix := wholeDigits_isPrefix unsigned
  generalize hwhole : wholeDigits unsigned = whole at hprefix ⊢
  split
  · exact .inl ⟨_, rfl⟩
  next hne =>
  have hrest : Leaves cs (unsigned.drop whole.length) := by
    obtain ⟨after, rfl⟩ := hprefix
    obtain ⟨d, ds, rfl⟩ := List.exists_cons_of_ne_nil (mt List.isEmpty_iff.2 hne)
    rw [List.drop_left]
    exact (Leaves.cons d ⟨ds, rfl⟩).of_suffix hunsigned
  generalize unsigned.drop whole.length = rest at hrest ⊢
  have hafter : Leaves cs
      (if (fractionDigits rest).isEmpty = true then rest
      else rest.drop ((fractionDigits rest).length + 1)) := by
    split
    · exact hrest
    · exact hrest.trans_suffix (List.drop_suffix _ _)
  generalize (if (fractionDigits rest).isEmpty = true then rest
    else rest.drop ((fractionDigits rest).length + 1)) = afterFraction at hafter ⊢
  split
  · next he =>
      exact .inr (.inr ⟨_, _, rfl, hafter.trans_suffix (exponent?_suffix he), .inr ⟨_, rfl⟩⟩)
  · split
    · split
      · next hlong => exact .inr (.inl ⟨rfl, unsigned, hunsigned, hwhole ▸ hlong⟩)
      · exact .inr (.inr ⟨_, _, rfl, hafter, .inl ⟨_, rfl⟩⟩)
    · exact .inr (.inr ⟨_, _, rfl, hafter, .inr ⟨_, rfl⟩⟩)

def names : List (String × Value) :=
  [("null", .null), ("true", .bool true), ("false", .bool false), ("NaN", .real .notANumber),
   ("Infinity", .real (.infinity false)), ("-Infinity", .real (.infinity true))]

def named? (cs : List Char) : Option (Value × List Char) :=
  names.findSome? fun entry => (after? entry.1.toList cs).map (entry.2, ·)

theorem named?_leaves {cs : List Char} {read : Value × List Char} (h : named? cs = some read) :
    Leaves cs read.2 := by
  obtain ⟨entry, hm, hr⟩ := List.exists_of_findSome?_eq_some h
  obtain ⟨rest, ha, rfl⟩ := Option.map_eq_some_iff.1 hr
  have hne : entry.1.toList ≠ [] := by
    simp only [names, List.mem_cons, List.not_mem_nil, or_false] at hm
    rcases hm with rfl | rfl | rfl | rfl | rfl | rfl <;> decide
  obtain ⟨c, name, hname⟩ := List.exists_cons_of_ne_nil hne
  rw [after?_eq_some_iff.1 ha, hname]
  exact .cons c ⟨name, rfl⟩

/-- Reads a value that is neither a list nor an object. -/
def scalar (cs : List Char) : Except Failure (Value × List Char) :=
  match cs with
  | '\x22' :: rest => (string cs [] rest).map fun read => (.str (String.ofList read.1), read.2)
  | _ =>
    match named? cs with
    | some read => .ok read
    | none => number cs

theorem scalar_leaves {cs : List Char} {read : Value × List Char} (h : scalar cs = .ok read) :
    Leaves cs read.2 := by
  unfold scalar at h
  split at h
  · next inside =>
    cases hs : string ('\x22' :: inside) [] inside with
    | error e =>
      rw [hs] at h
      cases h
    | ok s =>
      rw [hs] at h
      obtain rfl := Except.ok.inj h
      exact (string_leaves hs).of_suffix (List.suffix_cons _ _)
  · split at h
    · next hn =>
      obtain rfl := Except.ok.inj h
      exact named?_leaves hn
    · rcases number_cases cs with ⟨_, hn⟩ | ⟨hn, _⟩ | ⟨v, rest, hn, hleaves, _⟩
      · cases hn.symm.trans h
      · cases hn.symm.trans h
      · obtain rfl := Except.ok.inj (hn.symm.trans h)
        exact hleaves

theorem scalar_length {cs : List Char} {read : Value × List Char} (h : scalar cs = .ok read) :
    read.2.length < cs.length :=
  (scalar_leaves h).length_lt

/-- Reads the key of a member and the colon after it. -/
def key (cs : List Char) : Except Failure (String × List Char) :=
  match cs with
  | '\x22' :: rest =>
    match string cs [] rest with
    | .error e => .error e
    | .ok (name, rest) =>
      match skipBlanks rest with
      | ':' :: rest => .ok (String.ofList name, skipBlanks rest)
      | rest => .error (.malformed .noColon rest)
  | _ => .error (.malformed .noPropertyName cs)

theorem key_leaves {cs : List Char} {read : String × List Char} (h : key cs = .ok read) :
    Leaves cs read.2 := by
  unfold key at h
  split at h
  · next inside =>
    split at h
    · cases h
    · next hs =>
      split at h
      · next hcolon =>
        cases h
        have hrest := (leaves_of_skipBlanks hcolon).suffix
        exact .cons _ (((skipBlanks_suffix _).trans hrest).trans (string_leaves hs).suffix)
      · cases h
  · cases h

theorem key_length {cs : List Char} {read : String × List Char} (h : key cs = .ok read) :
    read.2.length < cs.length :=
  (key_leaves h).length_lt

/-- A list or object that is open: its items or members so far, last one first, and the key that
waits for a value. -/
inductive Frame where
  | list (done : List Value)
  | object (done : List (String × Value)) (key : String)

mutual

/-- Reads a value inside the open lists and objects of `stack`, and then the rest of the text. There
is room for so many lists and objects to be open at once. -/
def readValue (room : Nat) (stack : List Frame) (cs : List Char) : Except Failure Value :=
  match cs with
  | '[' :: inner =>
    if room ≤ stack.length then .error (.excess .deepNesting)
    else
      match _h : skipBlanks inner with
      | ']' :: rest => finishValue room stack (.list []) rest
      | rest => readValue room (.list [] :: stack) rest
  | '\x7b' :: inner =>
    if room ≤ stack.length then .error (.excess .deepNesting)
    else
      match _h : skipBlanks inner with
      | '\x7d' :: rest => finishValue room stack (.object []) rest
      | first =>
        match _hk : key first with
        | .error e => .error e
        | .ok (name, rest) => readValue room (.object [] name :: stack) rest
  | cs =>
    match _h : scalar cs with
    | .error e => .error e
    | .ok (v, rest) => finishValue room stack v rest
termination_by cs.length
decreasing_by
  · have := length_skipBlanks _h
    simp only [List.length_cons] at *
    omega
  · have := length_skipBlanks _h
    simp only [List.length_cons] at *
    omega
  · have := length_skipBlanks _h
    simp only [List.length_cons] at *
    omega
  · have := length_skipBlanks _h
    have := key_length _hk
    simp only [List.length_cons] at *
    omega
  · exact scalar_length _h

def finishValue (room : Nat) (stack : List Frame) (v : Value) (cs : List Char) :
    Except Failure Value :=
  match stack with
  | [] =>
    match skipBlanks cs with
    | [] => .ok v
    | rest => .error (.malformed .extraData rest)
  | .list done :: stack =>
    match _h : skipBlanks cs with
    | ']' :: rest => finishValue room stack (.list (v :: done).reverse) rest
    | ',' :: rest => readValue room (.list (v :: done) :: stack) (skipBlanks rest)
    | rest => .error (.malformed .noComma rest)
  | .object done name :: stack =>
    match _h : skipBlanks cs with
    | '\x7d' :: rest => finishValue room stack (Value.ofMembers ((name, v) :: done).reverse) rest
    | ',' :: rest =>
      match _hk : key (skipBlanks rest) with
      | .error e => .error e
      | .ok (next, after) => readValue room (.object ((name, v) :: done) next :: stack) after
    | rest => .error (.malformed .noComma rest)
termination_by cs.length
decreasing_by
  · have := length_skipBlanks _h
    simp only [List.length_cons] at *
    omega
  · have := length_skipBlanks _h
    have := length_skipBlanks (rfl : skipBlanks rest = _)
    simp only [List.length_cons] at *
    omega
  · have := length_skipBlanks _h
    simp only [List.length_cons] at *
    omega
  · have := length_skipBlanks _h
    have := length_skipBlanks (rfl : skipBlanks rest = _)
    have := key_length _hk
    simp only [List.length_cons] at *
    omega

end

structure Position where
  line : Option Int
  column : Option Int
  deriving DecidableEq, Repr

def Position.location : Position → Option String
  | ⟨none, _⟩ => none
  | ⟨some line, none⟩ => some ("line " ++ toString line)
  | ⟨some line, some column⟩ => some ("line " ++ toString line ++ ", column " ++ toString column)

/-- Where a text is malformed. -/
structure SyntaxError where
  problem : Problem
  offset : Nat
  /-- The line of the fault, counted from 1. -/
  line : Nat
  /-- The column of the fault, counted from 1. -/
  column : Nat
  deriving DecidableEq, Repr

/-- The place of a problem in a text, given what is left of the text there. -/
def SyntaxError.locate (text : List Char) (problem : Problem) (rest : List Char) : SyntaxError :=
  let before := text.take (text.length - rest.length)
  ⟨problem, before.length, before.count '\n' + 1, (before.reverse.takeWhile (· != '\n')).length + 1⟩

def SyntaxError.position (e : SyntaxError) : Position := ⟨some e.line, some e.column⟩

inductive ReadError where
  | malformed (error : SyntaxError)
  | excess (e : Excess)
  deriving DecidableEq, Repr

/-- The value that a text writes. There is room for so many lists and objects to be open at once. -/
def read (room : Nat) (text : List Char) : Except ReadError Value :=
  let result :=
    if text.head? = some '\ufeff' then .error (.malformed .byteOrderMark text)
    else readValue room [] (skipBlanks text)
  match result with
  | .ok v => .ok v
  | .error (.excess e) => .error (.excess e)
  | .error (.malformed problem rest) => .error (.malformed (.locate text problem rest))

end TwinNode.Json
