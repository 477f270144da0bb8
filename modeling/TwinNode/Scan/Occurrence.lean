import TwinNode.Scan.Views

/-! A recogniser says whether something begins at a place of a text and, if so, what text is
left after it; it may look at the character before the place. Occurrences are found from
left to right and never overlap. -/

namespace TwinNode

/-- Given the character before a place, if there is one, and the text from there on, the text left
after what is recognised. -/
abbrev Recogniser := Option Char → List Char → Option (List Char)

/-- The occurrences in a text that begins at `offset` after the character `before`; the first `skip`
characters belong to an earlier occurrence. -/
def occurrencesFrom (r : Recogniser) (before : Option Char) (offset skip : Nat) :
    List Char → List Span
  | [] => []
  | c :: cs =>
    match skip with
    | skip + 1 => occurrencesFrom r (some c) (offset + 1) skip cs
    | 0 =>
      match r before (c :: cs) with
      | none => occurrencesFrom r (some c) (offset + 1) 0 cs
      | some rest =>
        ⟨offset, offset + (cs.length + 1 - rest.length)⟩ ::
          occurrencesFrom r (some c) (offset + 1) (cs.length - rest.length) cs

/-- The character before an offset of a text. -/
def charBefore? (text : List Char) : Nat → Option Char
  | 0 => none
  | offset + 1 => text[offset]?

/-- The occurrences in the window of a text between two offsets. The text ends at the window's end;
at its start, the character before it is seen. -/
def occurrencesIn (r : Recogniser) (text : List Char) (window : Span) : List Span :=
  occurrencesFrom r (charBefore? text window.start) window.start 0 (window.slice text)

def occurrences (r : Recogniser) (text : List Char) : List Span :=
  occurrencesFrom r none 0 0 text

end TwinNode
