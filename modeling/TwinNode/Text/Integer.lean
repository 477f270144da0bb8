import TwinNode.Text.Blank
import TwinNode.Text.Digit

/-! In its plain form an integer is written with digits that have no zero in front, and with
a minus if it is negative. Other forms are brought into the plain one first: there may be
blanks around the number, a plus in front of it, more zeros before its digits, single
underscores between them, and zeros after a point. -/

namespace TwinNode.Text

inductive IntegerFault where
  | malformed
  /-- The plain form has more than `maxDigits` digits. -/
  | tooLong
  deriving DecidableEq, Repr

/-- The integer that a text writes in plain form. Too many digits are found before anything behind
them. -/
def readPlainInteger (cs : List Char) : Except IntegerFault Int :=
  let unsigned := match cs with
    | '-' :: rest => rest
    | rest => rest
  let digits := unsigned.takeWhile Char.isDigit
  if unsigned = ['0'] then .ok 0
  else if digits.isEmpty || digits.head? = some '0' then .error .malformed
  else if maxDigits < digits.length then .error .tooLong
  else if digits.length < unsigned.length then .error .malformed
  else if unsigned.length = cs.length then .ok (readDigits digits)
  else .ok (-readDigits digits)

/-- A blank beside a written integer; the separator controls are none. -/
def isIntegerBlank (c : Char) : Bool :=
  isBlank c && !(0x1C ≤ c.toNat && c.toNat ≤ 0x1F)

/-- What is left after zeros in front, and the underscores behind them. One zero stays if nothing
follows, or a point does. Nothing if the text begins with no digit. -/
def dropZeros? (cs : List Char) : Option (List Char) :=
  match cs with
  | '0' :: _ =>
    let rest := cs.dropWhile fun c => c == '0' || c == '_'
    if rest.isEmpty || rest.head? = some '.' then some (cs.drop (cs.length - rest.length - 1))
    else some rest
  | c :: _ => if c.isDigit then some cs else none
  | [] => none

/-- The text without a point and the zeros behind it, of which there has to be one. -/
def dropFraction (cs : List Char) : List Char :=
  match cs.reverse.dropWhile (· == '0') with
  | '.' :: whole => if cs.getLast? = some '0' then whole.reverse else cs
  | _ => cs

/-- Whether underscores stand only between other characters, and only single ones. -/
def underscoresSeparate : List Char → Bool
  | [] => true
  | ['_'] => false
  | '_' :: '_' :: _ => false
  | _ :: cs => underscoresSeparate cs

/-- The text without its underscores, if all of them separate something. -/
def dropUnderscores (cs : List Char) : List Char :=
  if cs.head? ≠ some '_' ∧ underscoresSeparate cs then cs.filter (· != '_') else cs

/-- The plain form of an integer that is written with one sign or none. -/
def plainInteger? (cs : List Char) : Option (List Char) :=
  match cs with
  | '+' :: rest => (dropZeros? rest).map (dropUnderscores ∘ dropFraction)
  | '-' :: rest => (dropZeros? rest).map fun digits => '-' :: dropUnderscores (dropFraction digits)
  | rest => (dropZeros? rest).map (dropUnderscores ∘ dropFraction)

def dropIntegerBlanks (cs : List Char) : List Char :=
  ((cs.dropWhile isIntegerBlank).reverse.dropWhile isIntegerBlank).reverse

/-- The integer that a text writes, in plain form or in another. Only the plain form can have too
many digits; another form that has them counts as malformed. -/
def readInteger (text : String) : Except IntegerFault Int :=
  match readPlainInteger text.toList with
  | .error .malformed =>
    match plainInteger? (dropIntegerBlanks text.toList) with
    | some plain => (readPlainInteger plain).mapError fun _ => .malformed
    | none => .error .malformed
  | outcome => outcome

end TwinNode.Text
