import TwinNode.Markup.Block

/-! A scanned text keeps three views of equal length: the source, its code (comments
blanked) and its skeleton (comments and the inside of literals blanked). Searches run on the
skeleton, so that nothing in a comment or a literal is found; the value of a literal is read
back from the code. -/

namespace TwinNode

open TwinNode.Script (blank isQuote backtick)

structure Views where
  source : List Char
  code : List Char
  skeleton : List Char
  deriving DecidableEq, Repr

/-- A stretch of text, from `start` up to but not including `stop`. -/
structure Span where
  start : Nat
  stop : Nat
  deriving DecidableEq, Repr

namespace Span

def contains (s : Span) (offset : Nat) : Bool := s.start ≤ offset && offset < s.stop

def slice (s : Span) (text : List Char) : List Char := (text.take s.stop).drop s.start

end Span

namespace Script

def views (text : List Char) : Views := ⟨text, code text, skeleton text⟩

end Script

namespace Markup

/-- The code of a piece: the comments of a JavaScript body are blanked. -/
def Piece.code : Piece → List Char
  | text c => [c]
  | block b =>
    { b with body := if isJavaScript b.attributes then Script.code b.body else b.body }.source

/-- The skeleton of a piece: a JavaScript body gives its skeleton. -/
def Piece.skeleton : Piece → List Char
  | text c => [c]
  | block b =>
    { b with body := if isJavaScript b.attributes then Script.skeleton b.body else b.body }.source

def views (text : List Char) : Views :=
  let found := pieces (blankComments false text)
  ⟨text, found.flatMap Piece.code, found.flatMap Piece.skeleton⟩

/-- The bodies of the JavaScript blocks among pieces that begin at `offset`. -/
def javaScriptSpansFrom (offset : Nat) : List Piece → List Span
  | [] => []
  | .text _ :: rest => javaScriptSpansFrom (offset + 1) rest
  | .block b :: rest =>
    let start := offset + b.bodyStart
    let others := javaScriptSpansFrom (offset + b.source.length) rest
    if isJavaScript b.attributes then ⟨start, start + b.body.length⟩ :: others else others

section Spans

variable (found : List Piece) (offset : Nat)

theorem javaScriptSpansFrom_text (c : Char) :
    javaScriptSpansFrom offset (.text c :: found) = javaScriptSpansFrom (offset + 1) found := rfl

theorem javaScriptSpansFrom_script {b : Block} (h : isJavaScript b.attributes = true) :
    javaScriptSpansFrom offset (.block b :: found) =
      ⟨offset + b.bodyStart, offset + b.bodyStart + b.body.length⟩ ::
        javaScriptSpansFrom (offset + b.source.length) found := by
  rw [javaScriptSpansFrom]
  exact if_pos h

theorem javaScriptSpansFrom_other {b : Block} (h : isJavaScript b.attributes = false) :
    javaScriptSpansFrom offset (.block b :: found) =
      javaScriptSpansFrom (offset + b.source.length) found := by
  rw [javaScriptSpansFrom, h]
  rfl

end Spans

end Markup

namespace Views

/-- The bodies of the JavaScript blocks in the code of a scanned markup text. -/
def javaScriptSpans (v : Views) : List Span :=
  Markup.javaScriptSpansFrom 0 (Markup.pieces v.code)

/-- The line of an offset, counted from 1. -/
def lineOf (v : Views) (offset : Nat) : Nat :=
  (v.source.take offset).count '\n' + 1

def location (v : Views) (offset : Nat) : String :=
  "line " ++ toString (v.lineOf offset)

/-- The text of the string or template literal whose opening delimiter stands at `offset`. The
closing delimiter is looked up in the skeleton, where delimiters inside literals are blanked. There
is no literal where no delimiter stands, where it is never closed, and where a string does not end
on its line. -/
def literal? (v : Views) (offset : Nat) : Option (List Char) :=
  match v.skeleton.drop offset with
  | [] => none
  | delimiter :: rest =>
    let inside := rest.takeWhile (· != delimiter)
    if isQuote delimiter && inside.length < rest.length &&
        (delimiter == backtick || !inside.contains '\n') then
      some ((v.code.drop (offset + 1)).take inside.length)
    else none

/-- The literal at an offset; fails only for an offset past the end of the text. -/
def literalAt (v : Views) (offset : Nat) : Except Unit (Option (List Char)) :=
  if offset < v.skeleton.length then .ok (v.literal? offset) else .error ()

end Views

/-- Follows a text from `offset`, where `depth` braces are open, to the brace that brings the count
back to zero. -/
def closingBrace? (depth : Int) (offset : Nat) : List Char → Option Nat
  | [] => none
  | c :: cs =>
    if c = '\x7b' then closingBrace? (depth + 1) (offset + 1) cs
    else if c = '\x7d' then
      if depth = 1 then some offset else closingBrace? (depth - 1) (offset + 1) cs
    else closingBrace? depth (offset + 1) cs

/-- The offset of the brace that closes the one at `offset`. -/
def matchingBrace? (skeleton : List Char) (offset : Nat) : Option Nat :=
  closingBrace? 0 offset (skeleton.drop offset)

end TwinNode
