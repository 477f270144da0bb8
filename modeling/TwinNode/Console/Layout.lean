import TwinNode.Console.Width
import TwinNode.Text.Split

/-! How a text is laid out on lines of a limited width: tabs lead to the next stop, lines
are broken between words, and what is still too long is folded or cut off. -/

namespace TwinNode.Console

/-- The number of cells from one tab stop to the next. -/
def tabStop : Nat := 8

/-- The stretches between the tabs of a line, each with one blank and more up to the next stop;
`column` is where the first of them begins. -/
def expandFrom (column : Nat) : List (List Char) → List Char
  | [] => []
  | [last] => last
  | stretch :: rest =>
    let stop := column + width (stretch ++ [' '])
    let next := (stop + tabStop - 1) / tabStop * tabStop
    stretch ++ ' ' :: List.replicate (next - stop) ' ' ++ expandFrom next rest

def expandTabs (line : List Char) : List Char :=
  expandFrom 0 (Text.splitWhere (· == '\t') line)

/-- Splits off a word with the blanks on both sides of it. -/
def spacedWord? (cs : List Char) : Option (List Char × List Char) :=
  let blanks := cs.takeWhile Text.isBlank
  let word := (cs.drop blanks.length).takeWhile fun c => !Text.isBlank c
  let rest := cs.drop (blanks.length + word.length)
  let after := rest.takeWhile Text.isBlank
  if word.isEmpty then none else some (blanks ++ word ++ after, rest.drop after.length)

theorem spacedWord?_length {cs word rest : List Char} (h : spacedWord? cs = some (word, rest)) :
    rest.length < cs.length := by
  simp only [spacedWord?] at h
  split at h
  · simp at h
  · rename_i hword
    cases h
    have hpos := List.length_pos_iff.2 (mt List.isEmpty_iff.2 hword)
    have hle : ∀ tail : List Char, (tail.takeWhile fun c => !Text.isBlank c).length ≤ tail.length :=
      fun tail => (List.takeWhile_prefix _).length_le
    specialize hle (cs.drop (cs.takeWhile Text.isBlank).length)
    simp only [List.length_drop] at hpos hle ⊢
    omega

/-- The words of a line. Blanks belong to the word before them, and those at the beginning to the
first word; a line of blanks has no words. -/
def spacedWords (cs : List Char) : List (List Char) :=
  match _h : spacedWord? cs with
  | none => []
  | some (word, rest) => word :: spacedWords rest
termination_by cs.length
decreasing_by exact spacedWord?_length _h

/-- Puts clusters together in pieces of at most `total` cells; `used` is the width of the piece
before them. -/
def gather (total used : Nat) : List Cluster → List (List Char)
  | [] => [[]]
  | c :: cs =>
    if total < used + c.width then
      match gather total c.width cs with
      | piece :: rest => [] :: (c.chars ++ piece) :: rest
      | [] => [[], c.chars]
    else
      match gather total (used + c.width) cs with
      | piece :: rest => (c.chars ++ piece) :: rest
      | [] => [c.chars]

/-- Cuts a word into pieces of at most `total` cells. -/
def chop (total : Nat) (word : List Char) : List (List Char) := gather total 0 (clusters word)

inductive Overflow where
  /-- It goes on in the next line. -/
  | fold
  /-- It is cut off, with an ellipsis. -/
  | ellipsis
  deriving DecidableEq, Repr

structure Filling where
  /-- The finished lines, the last one first. -/
  finished : List (List Char) := []
  line : List Char := []
  column : Nat := 0

namespace Filling

/-- Begins a new line, unless nothing was written at all. -/
def breakLine (f : Filling) : Filling :=
  if f.finished.isEmpty && f.line.isEmpty then f else { finished := f.line :: f.finished }

def write (f : Filling) (cs : List Char) : Filling :=
  { f with line := f.line ++ cs, column := f.column + width cs }

/-- Adds a word where there is room for it. The blanks behind a word need no room. -/
def addWord (total : Nat) (overflow : Overflow) (f : Filling) (word : List Char) : Filling :=
  let needed := width (Text.trimRight word)
  if f.column + needed ≤ total then f.write word
  else if total < needed ∧ overflow = .fold then
    (chop total word).foldl (fun f piece => f.breakLine.write piece) f
  else f.breakLine.write word

end Filling

def breakLines (total : Nat) (overflow : Overflow) (line : List Char) : List (List Char) :=
  match spacedWords line with
  | [] => [line]
  | words =>
    let filled := words.foldl (Filling.addWord total overflow) {}
    (filled.line :: filled.finished).reverse

/-- The line without the blanks at its end that stand beyond `total` characters. -/
def trimBeyond (total : Nat) (line : List Char) : List Char :=
  let blanks := line.length - (Text.trimRight line).length
  line.take (line.length - min blanks (line.length - total))

/-- A line that is at most `total` wide. -/
def fit (total : Nat) (overflow : Overflow) (line : List Char) : List Char :=
  if width line ≤ total then line
  else
    match overflow with
    | .fold => cut total line
    | .ellipsis => cut (total - 1) line ++ ['…']

def layout (total : Nat) (overflow : Overflow) (text : List Char) : List (List Char) :=
  (Text.splitWhere (· == '\n') text).flatMap fun line =>
    (breakLines total overflow (expandTabs line)).map fun line =>
      fit total overflow (trimBeyond total line)

end TwinNode.Console
