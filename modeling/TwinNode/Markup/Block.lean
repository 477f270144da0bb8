import TwinNode.Script.Segment
import TwinNode.Text.LowerCase

/-! Markup is text with inline script blocks in it. Comments are blanked first; then a block
reaches from an opening `script` tag to the nearest closing one. The language of a block is
decided by the `type` attribute of its tag, and a block without one is JavaScript. -/

namespace TwinNode.Markup

open TwinNode.Text
open TwinNode.Script (blank isQuote)

/-- Blanks the comments of a markup text. `inside` tells whether a comment is open at the beginning;
a comment that is never closed reaches to the end. -/
def blankComments (inside : Bool) : List Char → List Char
  | [] => []
  | '<' :: '!' :: '-' :: '-' :: cs =>
    if inside then ' ' :: blankComments true ('!' :: '-' :: '-' :: cs)
    else ' ' :: ' ' :: ' ' :: ' ' :: blankComments true cs
  | '-' :: '-' :: '>' :: cs =>
    if inside then ' ' :: ' ' :: ' ' :: blankComments false cs
    else '-' :: blankComments false ('-' :: '>' :: cs)
  | c :: cs => (if inside then blank c else c) :: blankComments inside cs

@[simp] theorem length_blankComments (inside : Bool) (cs : List Char) :
    (blankComments inside cs).length = cs.length := by
  fun_induction blankComments inside cs <;> simp_all

/-- The letter that a tag or attribute name is compared by: case is ignored, and so is the shape of
a long `s` and the dot of an `i`. -/
def foldLetter (c : Char) : Char :=
  if c = 'ſ' then 's' else if c = 'ı' ∨ c = 'İ' then 'i' else c.toLower

/-- Splits off the beginning of a text that spells `name`, letters compared by `foldLetter`. -/
def spelled? : List Char → List Char → Option (List Char × List Char)
  | [], cs => some ([], cs)
  | _ :: _, [] => none
  | n :: name, c :: cs =>
    if foldLetter c = n then (spelled? name cs).map fun split => (c :: split.1, split.2) else none

theorem spelled?_source {name cs : List Char} {split : List Char × List Char}
    (h : spelled? name cs = some split) : split.1 ++ split.2 = cs := by
  induction name generalizing cs split with
  | nil => simp only [spelled?, Option.some.injEq] at h; simp [← h]
  | cons n name ih =>
    cases cs with
    | nil => simp [spelled?] at h
    | cons c cs =>
      simp only [spelled?] at h
      split at h
      · obtain ⟨s, hs, rfl⟩ := Option.map_eq_some_iff.1 h
        simp [ih hs]
      · simp at h

/-- Splits off a closing `script` tag. -/
def closingTag? (cs : List Char) : Option (List Char × List Char) :=
  (spelled? "</script".toList cs).bind fun tag =>
    match tag.2.dropWhile isBlank with
    | '>' :: rest => some (tag.1 ++ tag.2.takeWhile isBlank ++ ['>'], rest)
    | _ => none

theorem closingTag?_source {cs : List Char} {split : List Char × List Char}
    (h : closingTag? cs = some split) : split.1 ++ split.2 = cs := by
  obtain ⟨tag, ht, h⟩ := Option.bind_eq_some_iff.1 h
  split at h
  · next rest hr =>
    obtain rfl := Option.some.inj h
    rw [← spelled?_source ht]
    conv => rhs; rw [← List.takeWhile_append_dropWhile (p := isBlank) (l := tag.2), hr]
    simp
  · simp at h

/-- Splits a text at the nearest closing `script` tag: the body before it, the tag, the rest. -/
def untilClosingTag? : List Char → Option (List Char × List Char × List Char)
  | [] => none
  | c :: cs =>
    match closingTag? (c :: cs) with
    | some (tag, rest) => some ([], tag, rest)
    | none => (untilClosingTag? cs).map fun split => (c :: split.1, split.2)

theorem untilClosingTag?_source {cs : List Char} {split : List Char × List Char × List Char}
    (h : untilClosingTag? cs = some split) : split.1 ++ split.2.1 ++ split.2.2 = cs := by
  induction cs generalizing split with
  | nil => simp [untilClosingTag?] at h
  | cons c cs ih =>
    simp only [untilClosingTag?] at h
    split at h
    · next tag rest ht =>
      obtain rfl := Option.some.inj h
      simpa using closingTag?_source ht
    · obtain ⟨s, hs, rfl⟩ := Option.map_eq_some_iff.1 h
      simp [← ih hs]

/-- A script block: its tag up to the attributes, the attributes, the body and the closing tag. -/
structure Block where
  opening : List Char
  attributes : List Char
  body : List Char
  closing : List Char
  deriving DecidableEq, Repr

def Block.source (b : Block) : List Char :=
  b.opening ++ b.attributes ++ '>' :: (b.body ++ b.closing)

def Block.bodyStart (b : Block) : Nat :=
  b.opening.length + b.attributes.length + 1

def block? (cs : List Char) : Option (Block × List Char) :=
  (spelled? "<script".toList cs).bind fun tag =>
    if tag.2.head?.any isWord then none
    else
      match tag.2.dropWhile (· != '>') with
      | [] => none
      | _ :: afterTag =>
        (untilClosingTag? afterTag).map fun split =>
          (⟨tag.1, tag.2.takeWhile (· != '>'), split.1, split.2.1⟩, split.2.2)

theorem block?_source {cs : List Char} {found : Block × List Char} (h : block? cs = some found) :
    found.1.source ++ found.2 = cs := by
  obtain ⟨tag, ht, h⟩ := Option.bind_eq_some_iff.1 h
  split at h
  · simp at h
  · split at h
    · simp at h
    · next d afterTag hd =>
      obtain ⟨s, hs, rfl⟩ := Option.map_eq_some_iff.1 h
      have hgt : d = '>' := by
        have := List.head?_dropWhile_not (· != '>') tag.2
        simpa [hd] using this
      rw [← spelled?_source ht]
      conv => rhs; rw [← List.takeWhile_append_dropWhile (p := (· != '>')) (l := tag.2), hd, hgt,
        ← untilClosingTag?_source hs]
      simp [Block.source]

/-- A piece of a markup text, in source order. -/
inductive Piece where
  | text (c : Char)
  | block (b : Block)
  deriving DecidableEq, Repr

def Piece.source : Piece → List Char
  | text c => [c]
  | block b => b.source

def pieces : List Char → List Piece
  | [] => []
  | c :: cs =>
    match _h : block? (c :: cs) with
    | some (b, rest) => .block b :: pieces rest
    | none => .text c :: pieces cs
termination_by text => text.length
decreasing_by
  · have hs := congrArg List.length (block?_source _h)
    simp [Block.source] at hs ⊢
    omega
  · simp

theorem pieces_source (text : List Char) : (pieces text).flatMap Piece.source = text := by
  fun_induction pieces text with
  | case1 => rfl
  | case2 c cs b rest h ih => simpa [Piece.source, ih] using block?_source h
  | case3 c cs h ih => simp [Piece.source, ih]

/-- The value of a `type` attribute that begins here: quoted or not, up to a quote, a blank or the
end of the tag. -/
def typeValueAt? (before : Option Char) (cs : List Char) : Option (List Char) :=
  if isBoundary before cs.head? then
    (spelled? "type".toList cs).bind fun name =>
      match name.2.dropWhile isBlank with
      | '=' :: rest =>
        let value := rest.dropWhile isBlank
        let bare := fun value : List Char =>
          value.takeWhile fun c => !(c == '\x22' || c == '\x27' || isBlank c || c == '>')
        let unquoted := match value with
          | q :: inner => if q == '\x22' || q == '\x27' then bare inner else bare value
          | [] => []
        if unquoted.isEmpty then none else some unquoted
      | _ => none
  else none

/-- The first `type` attribute with a value among the attributes of a tag. -/
def typeValue? (before : Option Char) : List Char → Option (List Char)
  | [] => none
  | c :: cs => (typeValueAt? before (c :: cs)).or (typeValue? (some c) cs)

def javaScriptTypes : List (List Char) :=
  ["text/javascript", "application/javascript", "module", "text/ecmascript"].map String.toList

/-- Whether a block with these attributes holds JavaScript. -/
def isJavaScript (attributes : List Char) : Bool :=
  match typeValue? none attributes with
  | none => true
  | some value => javaScriptTypes.contains (lower value)

end TwinNode.Markup
