import TwinNode.Scan.Occurrence
import TwinNode.Text.Spelling

/-! The phrases of scripts and markup that tell how a node declares itself. Each is a
recogniser over the skeleton of a text. -/

namespace TwinNode

open TwinNode.Text

inductive Phrase where
  /-- `registerType(` and the blanks after it. -/
  | registerCall
  /-- `static type =` and the blanks after it. -/
  | staticType
  /-- `static` and an opening brace. -/
  | staticBlock
  /-- `export default`. -/
  | defaultExport
  /-- `import` at the beginning of a statement, before something that can be imported. -/
  | importStatement
  /-- `require(` or `import(` and the blanks after it, before a literal. -/
  | moduleCall
  /-- `from`, or `import` at the beginning of a statement, before a string. -/
  | moduleFrom
  /-- A quoted `data-template-name` attribute. -/
  | templateName
  /-- A quoted `data-help-name` attribute. -/
  | helpName
  deriving DecidableEq, Repr

namespace Phrase

/-- Blanks, then the spelling `name`. -/
def blanksThen? (name : String) (cs : List Char) : Option (List Char) :=
  after? name.toList (trimLeft cs)

/-- The spelling `name` at the beginning of a word. -/
def wordStart? (name : String) (before : Option Char) (cs : List Char) : Option (List Char) :=
  if isBoundary before cs.head? then after? name.toList cs else none

def wordEnd? (cs : List Char) : Option (List Char) :=
  if cs.head?.any isWord then none else some cs

/-- The text, if one of `allowed` stands at its beginning. -/
def followedBy? (allowed : Char → Bool) (cs : List Char) : Option (List Char) :=
  if cs.head?.any allowed then some cs else none

/-- Whether a line begins after the character `before`. -/
def startsLine (before : Option Char) : Bool :=
  before.all (· == '\n')

/-- Spaces and tabs, then `import`, at the beginning of a line or after a semicolon or a brace. -/
def statementImport? (before : Option Char) (cs : List Char) : Option (List Char) :=
  let indented := fun text : List Char =>
    after? "import".toList (text.dropWhile fun c => c == ' ' || c == '\t')
  (if startsLine before then indented cs else none).or <|
    match cs with
    | c :: rest => if c == ';' || c == '\x7b' || c == '\x7d' then indented rest else none
    | [] => none

def isStringQuote (c : Char) : Bool := c == '\x22' || c == '\x27'

/-- What an import can bring in: a name, a list of names, all, or a module by its string. -/
def isImportable (c : Char) : Bool :=
  isWord c || c == '$' || c == '*' || c == '\x7b' || isStringQuote c

def attribute? (name : String) (before : Option Char) (cs : List Char) : Option (List Char) := do
  let rest ← wordStart? name before cs
  let rest ← blanksThen? "=" rest
  match trimLeft rest with
  | quote :: value =>
    if isStringQuote quote then
      match value.dropWhile (· != quote) with
      | _ :: rest => some rest
      | [] => none
    else none
  | [] => none

/-- Where a phrase ends that begins after the character `before`. -/
def recognise : Phrase → Recogniser
  | registerCall, before, cs => do
    let rest ← wordStart? "registerType" before cs
    let rest ← blanksThen? "(" rest
    some (trimLeft rest)
  | staticType, before, cs => do
    let rest ← wordStart? "static" before cs
    let rest ← followedBy? isBlank rest
    let rest ← blanksThen? "type" rest
    let rest ← blanksThen? "=" rest
    some (trimLeft rest)
  | staticBlock, before, cs => do
    let rest ← wordStart? "static" before cs
    blanksThen? "\x7b" rest
  | defaultExport, before, cs => do
    let rest ← wordStart? "export" before cs
    let rest ← followedBy? isBlank rest
    let rest ← blanksThen? "default" rest
    wordEnd? rest
  | importStatement, before, cs => do
    let rest ← statementImport? before cs
    let rest ← wordEnd? rest
    let _ ← followedBy? isImportable (trimLeft rest)
    some rest
  | moduleCall, before, cs => do
    let rest ← (wordStart? "require" before cs).or (wordStart? "import" before cs)
    let rest ← blanksThen? "(" rest
    followedBy? Script.isQuote (trimLeft rest)
  | moduleFrom, before, cs => do
    let rest ← (wordStart? "from" before cs).or (statementImport? before cs)
    followedBy? isStringQuote (trimLeft rest)
  | templateName, before, cs => attribute? "data-template-name" before cs
  | helpName, before, cs => attribute? "data-help-name" before cs

/-- The value of an attribute as it was recognised: what stands between its quotes. -/
def attributeValue (written : List Char) : List Char :=
  ((written.dropWhile fun c => !isStringQuote c).drop 1).dropLast

end Phrase

namespace Views

def find (v : Views) (p : Phrase) : List Span :=
  occurrences p.recognise v.skeleton

def findIn (v : Views) (p : Phrase) (window : Span) : List Span :=
  occurrencesIn p.recognise v.skeleton window

/-- The text of the literal that begins at `offset`, without blanks at its ends. -/
def literalAfter? (v : Views) (offset : Nat) : Option (List Char) :=
  (v.literal? offset).map trim

end Views

/-- The first place where `marker` stands as a word of its own, in a text that begins at `offset`
after the character `before`. -/
def findMarkerFrom (marker : List Char) (before : Option Char) (offset : Nat) (text : List Char) :
    Option Nat :=
  let here := isBoundary before text.head? &&
    (after? marker text).any fun rest => isBoundary (marker.getLast?.or before) rest.head?
  if here then some offset
  else
    match text with
    | [] => none
    | c :: cs => findMarkerFrom marker (some c) (offset + 1) cs

/-- The first place in a window of a text where `marker` stands as a word of its own. -/
def findMarker? (marker text : List Char) (window : Span) : Option Nat :=
  findMarkerFrom marker (charBefore? text window.start) window.start (window.slice text)

end TwinNode
