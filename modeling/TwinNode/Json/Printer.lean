import TwinNode.Json.Value
import TwinNode.Text.Hexadecimal

/-! Values are written either on one line without blanks, or with one item or member a line,
two spaces deeper than the list or object around it. Characters that have to be escaped are
the quote, the backslash and the controls below U+0020. -/

namespace TwinNode.Json

/-- Characters that are written as a backslash and a sign of their own. -/
def signs : List (Char × Char) :=
  [('\x22', '\x22'), ('\\', '\\'), ('\x08', 'b'), ('\x0c', 'f'), ('\n', 'n'),
    ('\r', 'r'), ('\t', 't')]

def quotedChar (c : Char) : List Char :=
  match signs.lookup c with
  | some sign => ['\\', sign]
  | none =>
    if c.toNat < 0x20 then '\\' :: 'u' :: Text.hexDigits 4 c.toNat else [c]

def quoted (s : String) : String :=
  String.ofList ('\x22' :: s.toList.flatMap quotedChar ++ ['\x22'])

/-- A real as a number with an exponent. -/
def Real.text : Real → String
  | notANumber => "NaN"
  | infinity negative => if negative then "-Infinity" else "Infinity"
  | decimal negative digits exponent =>
    (if negative then "-" else "") ++ toString digits ++ "e" ++ toString exponent

/-- Items between brackets, separated by commas; `lineBreak` begins the line of an item and
`lastBreak` the line of the closing bracket. -/
def bracketed (opening closing lineBreak lastBreak : String) (items : List String) : String :=
  if items.isEmpty then opening ++ closing
  else opening ++ lineBreak ++ String.intercalate ("," ++ lineBreak) items ++ lastBreak ++ closing

mutual

def Value.compact : Value → String
  | .null => "null"
  | .bool b => if b then "true" else "false"
  | .int n => toString n
  | .real x => x.text
  | .str s => quoted s
  | .list items => bracketed "[" "]" "" "" (compactItems items)
  | .object members => bracketed "\x7b" "\x7d" "" "" (compactMembers members)

def compactItems : List Value → List String
  | [] => []
  | v :: vs => v.compact :: compactItems vs

def compactMembers : List (String × Value) → List String
  | [] => []
  | (key, v) :: ms => (quoted key ++ ":" ++ v.compact) :: compactMembers ms

end

/-- The beginning of a line at some depth. -/
def lineAt (depth : Nat) : String :=
  "\n" ++ String.ofList (List.replicate (2 * depth) ' ')

mutual

/-- The value in lines; `depth` tells how many lists and objects are around it. -/
def Value.indented (depth : Nat) : Value → String
  | .null => "null"
  | .bool b => if b then "true" else "false"
  | .int n => toString n
  | .real x => x.text
  | .str s => quoted s
  | .list items =>
    bracketed "[" "]" (lineAt (depth + 1)) (lineAt depth) (indentedItems (depth + 1) items)
  | .object members =>
    bracketed "\x7b" "\x7d" (lineAt (depth + 1)) (lineAt depth)
      (indentedMembers (depth + 1) members)

def indentedItems (depth : Nat) : List Value → List String
  | [] => []
  | v :: vs => v.indented depth :: indentedItems depth vs

def indentedMembers (depth : Nat) : List (String × Value) → List String
  | [] => []
  | (key, v) :: ms => (quoted key ++ ": " ++ v.indented depth) :: indentedMembers depth ms

end

def Value.pretty (v : Value) : String := v.indented 0

end TwinNode.Json
