import TwinNode.Json.Shortest
import TwinNode.Text.Half
import TwinNode.Text.Quoted

/-! A message about a setting shows the value that was given and the name of its kind. A
long value is cut in the middle. -/

namespace TwinNode

open TwinNode.Json (Value)

/-- A character as it stands between quotes; half of a character is written by its code unit. -/
def shownChar (quote c : Char) : List Char :=
  if Text.isHalf c then '\\' :: 'u' :: Text.hexDigits 4 (Text.halfUnit c)
  else Text.quotedChar quote c

def shownString (s : String) : String := Text.quotedBy shownChar s

mutual

def shownInFull : Value → String
  | .null => "None"
  | .bool b => if b then "True" else "False"
  | .int n => toString n
  | .real x => x.shown
  | .str s => shownString s
  | .list items => "[" ++ String.intercalate ", " (shownItems items) ++ "]"
  | .object members => "\x7b" ++ String.intercalate ", " (shownMembers members) ++ "\x7d"

def shownItems : List Value → List String
  | [] => []
  | v :: vs => shownInFull v :: shownItems vs

def shownMembers : List (String × Value) → List String
  | [] => []
  | (key, v) :: ms => (shownString key ++ ": " ++ shownInFull v) :: shownMembers ms

end

/-- The longest beginning of a text that has at most so many bytes. -/
def takeBytes (bytes : Nat) : List Char → List Char
  | [] => []
  | c :: cs => if c.utf8Size ≤ bytes then c :: takeBytes (bytes - c.utf8Size) cs else []

/-- The longest text that is shown as it is, in bytes. -/
def maxShownBytes : Nat := 50

/-- A text without its middle, if it is too long. -/
def withoutMiddle (text : String) : String :=
  if text.utf8ByteSize ≤ maxShownBytes then text
  else
    let kept := maxShownBytes / 2
    String.ofList (takeBytes kept text.toList ++ ['.', '.', '.'] ++
      (takeBytes (kept - 1) text.toList.reverse).reverse)

def kindName : Value → String
  | .null => "NoneType"
  | .bool _ => "bool"
  | .int _ => "int"
  | .real _ => "float"
  | .str _ => "str"
  | .list _ => "list"
  | .object _ => "dict"

/-- A value and the name of its kind, as messages show them. -/
def shownValue (v : Value) : String :=
  "input_value=" ++ withoutMiddle (shownInFull v) ++ ", input_type=" ++ kindName v

end TwinNode
