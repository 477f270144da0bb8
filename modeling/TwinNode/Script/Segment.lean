import TwinNode.Script.Literal
import TwinNode.Text.Blank
import TwinNode.Text.Letter

/-! No syntax tree is built. A script is cut into comments, literals and the single
characters between them, and each segment has three faces of one length: its source, its
code (comments blanked) and its skeleton (comments and the inside of literals blanked). So
an offset means the same place in all three. -/

namespace TwinNode.Script

open TwinNode.Text

/-- A piece of a script, in source order. -/
inductive Segment where
  /-- A character outside comments and literals. -/
  | plain (c : Char)
  /-- A comment with its delimiters. -/
  | comment (text : List Char)
  /-- A literal: its opening delimiter, the text after it, and whether that ends with the
  delimiter. -/
  | literal (delimiter : Char) (tail : List Char) (closed : Bool)
  deriving DecidableEq, Repr

/-- A line break stays, every other character becomes a space. -/
def blank (c : Char) : Char := if c = '\n' then '\n' else ' '

namespace Segment

def source : Segment → List Char
  | plain c => [c]
  | comment text => text
  | literal delimiter tail _ => delimiter :: tail

/-- The segment with comments blanked. -/
def code : Segment → List Char
  | plain c => [c]
  | comment text => text.map blank
  | literal delimiter tail _ => delimiter :: tail

/-- The segment with comments and the inside of literals blanked; delimiters stay. -/
def skeleton : Segment → List Char
  | plain c => [c]
  | comment text => text.map blank
  | literal delimiter tail closed =>
    delimiter :: if closed then tail.dropLast.map blank ++ [delimiter] else tail.map blank

@[simp] theorem length_code (s : Segment) : s.code.length = s.source.length := by
  cases s <;> simp [code, source]

end Segment

/-- Characters after which a slash opens a regular expression. -/
def regexPreceders : List Char := "(,=:[!&|?\x7b\x7d;+-*%<>~^".toList

/-- Words after which a slash opens a regular expression. -/
def regexKeywords : List (List Char) :=
  ["return", "typeof", "case", "do", "else", "in", "of", "void", "yield", "await"].map String.toList

def isNameChar (c : Char) : Bool := isAlphanumeric c || c == '_' || c == '$'

/-- Whether a slash opens a regular expression. It does at the beginning of the text, after an
operator and after a keyword; after anything else it divides. `before` is the skeleton before the
slash, nearest character first. -/
def startsRegex (before : List Char) : Bool :=
  match before.dropWhile isBlank with
  | [] => true
  | c :: cs =>
    -- The word is read backwards, from its last character.
    regexPreceders.contains c ||
      (isLetter c && regexKeywords.contains ((c :: cs).takeWhile isNameChar).reverse)

/-- Splits after the first `*/`; without one, all belongs to the comment. -/
def blockComment : List Char → List Char × List Char
  | [] => ([], [])
  | '*' :: '/' :: cs => (['*', '/'], cs)
  | c :: cs => (c :: (blockComment cs).1, (blockComment cs).2)

theorem blockComment_source (cs : List Char) : (blockComment cs).1 ++ (blockComment cs).2 = cs := by
  fun_induction blockComment cs <;> simp_all

/-- The segment that begins with the character `c`, and the text after it. -/
def next (before : List Char) (c : Char) (cs : List Char) : Segment × List Char :=
  if c = '/' ∧ cs.head? = some '/' then
    (.comment (c :: cs.takeWhile (· != '\n')), cs.dropWhile (· != '\n'))
  else if c = '/' ∧ cs.head? = some '*' then
    (.comment (c :: '*' :: (blockComment cs.tail).1), (blockComment cs.tail).2)
  else if isQuote c || (c == '/' && startsRegex before) then
    let tail := literalTail c false cs
    (.literal c tail.text tail.closed, tail.rest)
  else
    (.plain c, cs)

theorem next_source (before : List Char) (c : Char) (cs : List Char) :
    (next before c cs).1.source ++ (next before c cs).2 = c :: cs := by
  unfold next
  split
  · simp [Segment.source, List.takeWhile_append_dropWhile]
  · split
    · next h =>
      obtain ⟨d, ds, rfl⟩ : ∃ d ds, cs = d :: ds := by
        cases cs with
        | nil => simp at h
        | cons d ds => exact ⟨d, ds, rfl⟩
      have hd : d = '*' := by simpa using h.2
      simp [Segment.source, hd, blockComment_source]
    · split
      · simp [Segment.source, literalTail_source]
      · simp [Segment.source]

theorem next_length (before : List Char) (c : Char) (cs : List Char) :
    (next before c cs).2.length < (c :: cs).length := by
  have h := congrArg List.length (next_source before c cs)
  have hs : 0 < (next before c cs).1.source.length := by
    unfold next
    repeat' split
    all_goals simp [Segment.source]
  simp only [List.length_append] at h
  omega

/-- The segments of a text. `before` is the skeleton on its left, nearest character first. -/
def segments (before : List Char) : List Char → List Segment
  | [] => []
  | c :: cs =>
    let step := next before c cs
    step.1 :: segments (step.1.skeleton.reverse ++ before) step.2
termination_by text => text.length
decreasing_by exact next_length before c cs

theorem segments_source (before text : List Char) :
    (segments before text).flatMap Segment.source = text := by
  fun_induction segments before text with
  | case1 => rfl
  | case2 before c cs step ih =>
    simp only [List.flatMap_cons, ih]
    exact next_source before c cs

theorem length_skeleton_next (before : List Char) (c : Char) (cs : List Char) :
    (next before c cs).1.skeleton.length = (next before c cs).1.source.length := by
  unfold next
  split
  · simp [Segment.skeleton, Segment.source]
  · split
    · simp [Segment.skeleton, Segment.source]
    · split
      · cases h : (literalTail c false cs).closed
        · simp [Segment.skeleton, Segment.source, h]
        · have ht := congrArg List.length (literalTail_closed h)
          simp only [List.length_append, List.length_singleton] at ht
          simp [Segment.skeleton, Segment.source, h]
          omega
      · rfl

theorem length_code (before text : List Char) :
    ((segments before text).flatMap Segment.code).length = text.length := by
  conv => rhs; rw [← segments_source before text]
  induction segments before text with
  | nil => rfl
  | cons s rest ih => simp [ih]

theorem length_skeleton (before text : List Char) :
    ((segments before text).flatMap Segment.skeleton).length = text.length := by
  fun_induction segments before text with
  | case1 => rfl
  | case2 before c cs step ih =>
    have h := congrArg List.length (next_source before c cs)
    simp only [List.length_append] at h
    rw [List.flatMap_cons, List.length_append, ih, ← h]
    exact congrArg (· + _) (length_skeleton_next before c cs)

/-- The text of a script with comments blanked. -/
def code (text : List Char) : List Char :=
  (segments [] text).flatMap Segment.code

/-- The text of a script with comments and the inside of literals blanked. -/
def skeleton (text : List Char) : List Char :=
  (segments [] text).flatMap Segment.skeleton

end TwinNode.Script
