/-! Where a string, template or regular expression literal ends. A backslash takes the next
character into the literal. A line break ends every literal but a template, and then the
literal is left open. -/

namespace TwinNode.Script

def backtick : Char := '\x60'

/-- The characters that open and close string and template literals. -/
def quotes : List Char := ['\x22', '\x27', backtick]

/-- A character that opens a string or template literal. -/
def isQuote (c : Char) : Bool := quotes.contains c

/-- What follows the opening delimiter of a literal. -/
structure LiteralTail where
  /-- The rest of the literal, with its closing delimiter if it has one. -/
  text : List Char
  /-- Whether the literal is closed by its delimiter. -/
  closed : Bool
  rest : List Char
  deriving DecidableEq, Repr

namespace LiteralTail

def push (c : Char) (tail : LiteralTail) : LiteralTail :=
  { tail with text := c :: tail.text }

@[simp] theorem push_text (c : Char) (t : LiteralTail) : (push c t).text = c :: t.text := rfl
@[simp] theorem push_closed (c : Char) (t : LiteralTail) : (push c t).closed = t.closed := rfl
@[simp] theorem push_rest (c : Char) (t : LiteralTail) : (push c t).rest = t.rest := rfl

end LiteralTail

/-- Reads a literal from the character after its opening delimiter. In a regular expression, a slash
inside a character class does not close; `inClass` tells whether a class is open. -/
def literalTail (delimiter : Char) (inClass : Bool) : List Char → LiteralTail
  | [] => ⟨[], false, []⟩
  | ['\\'] => ⟨['\\'], false, []⟩
  | '\\' :: c :: cs => ((literalTail delimiter inClass cs).push c).push '\\'
  | c :: cs =>
    if c = '\n' ∧ delimiter ≠ backtick then ⟨[], false, c :: cs⟩
    else if c = delimiter ∧ ¬(delimiter = '/' ∧ inClass) then ⟨[c], true, cs⟩
    else (literalTail delimiter
      (if c = '[' then true else if c = ']' then false else inClass) cs).push c

theorem literalTail_source (delimiter : Char) (inClass : Bool) (cs : List Char) :
    (literalTail delimiter inClass cs).text ++ (literalTail delimiter inClass cs).rest = cs := by
  fun_induction literalTail delimiter inClass cs <;> simp_all

/-- A closed literal ends with its delimiter. -/
theorem literalTail_closed {delimiter : Char} {inClass : Bool} {cs : List Char}
    (h : (literalTail delimiter inClass cs).closed = true) :
    (literalTail delimiter inClass cs).text =
      (literalTail delimiter inClass cs).text.dropLast ++ [delimiter] := by
  fun_induction literalTail delimiter inClass cs with
  | case1 | case2 | case4 => simp at h
  | case3 inClass c cs ih =>
    have ht := ih (by simpa using h)
    simp only [LiteralTail.push_text]
    rw [ht]
    simp [List.dropLast]
  | case5 inClass c cs _ _ _ hc => simp [hc.1]
  | case6 inClass c cs _ _ _ _ ih =>
    have ht := ih (by simpa using h)
    simp only [LiteralTail.push_text]
    rw [ht]
    simp [List.dropLast]

end TwinNode.Script
