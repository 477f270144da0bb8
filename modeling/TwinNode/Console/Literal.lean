import TwinNode.Text.Digit
import TwinNode.Text.Hexadecimal
import TwinNode.Text.LowerCase
import TwinNode.Text.Split
import TwinNode.Text.Utf8

/-! A literal writes a value: a number, a text in quotes, a constant with a name, a tuple, a
set or a map. Only whether a text is a literal is of interest here, not its value.

A text is first cut into tokens; `readPart` then takes literals off a list of tokens. -/

namespace TwinNode.Console

/-- What a literal is as a part of another one. -/
inductive LiteralKind where
  | real
  | imaginary
  | signed
  /-- Any other value that can be a key or a member of a set. -/
  | key
  /-- A value that cannot be a key: it can be changed, or a part of it can. -/
  | container
  deriving DecidableEq, Repr

namespace LiteralKind

/-- A number with a sign in front of it; nothing else takes a sign. -/
def withSign? : LiteralKind → Option LiteralKind
  | real => some signed
  | imaginary => some key
  | _ => none

/-- The sum or difference of a real and an imaginary number; nothing else can be added. -/
def plus? : LiteralKind → LiteralKind → Option LiteralKind
  | real, imaginary => some key
  | signed, imaginary => some key
  | _, _ => none

def tuple (parts : List LiteralKind) : LiteralKind :=
  if parts.contains container then container else key

end LiteralKind

/-- A part of a literal that is read at once. -/
inductive LiteralToken where
  | value (kind : LiteralKind)
  /-- A text in quotes, of characters or of bytes. -/
  | quoted (bytes : Bool)
  /-- The name of the empty set. -/
  | emptySet
  | sign
  | comma
  | colon
  | opening
  | closing
  | openBrace
  | closeBrace
  deriving DecidableEq, Repr

/-! Numbers. -/

/-- Digits with single underscores in front of some of them, and the text behind them. -/
def underscored (isDigit : Char → Bool) : List Char → List Char × List Char
  | [] => ([], [])
  | c :: cs =>
    if isDigit c then
      let read := underscored isDigit cs
      (c :: read.1, read.2)
    else if c = '_' ∧ cs.head?.any isDigit then underscored isDigit cs
    else ([], c :: cs)

/-- Decimal digits, the first of which has no underscore in front, and the text behind them. -/
def decimals (cs : List Char) : List Char × List Char :=
  if cs.head?.any Char.isDigit then underscored Char.isDigit cs else ([], cs)

/-- The digits that can stand behind a zero and a letter. -/
def digitsOfBase? (letter : Char) : Option (Char → Bool) :=
  if letter = 'x' ∨ letter = 'X' then some fun c => (Text.hexDigit? c).isSome
  else if letter = 'o' ∨ letter = 'O' then some fun c => '0' ≤ c && c ≤ '7'
  else if letter = 'b' ∨ letter = 'B' then some fun c => c == '0' || c == '1'
  else none

/-- A number without a fraction and an exponent: too many digits cannot be read, and only zeros may
follow a zero. -/
def isWhole (digits : List Char) : Bool :=
  digits.length ≤ Text.maxDigits && (digits.head? != some '0' || digits.all (· == '0'))

def afterExponent? (cs : List Char) : Option (List Char) :=
  match cs with
  | e :: cs =>
    let unsigned := if cs.head? = some '+' ∨ cs.head? = some '-' then cs.tail else cs
    if (e = 'e' ∨ e = 'E') ∧ unsigned.head?.any Char.isDigit then some (decimals unsigned).2
      else none
  | [] => none

/-- A decimal number and the text behind it. -/
def decimalNumber? (cs : List Char) : Option (LiteralKind × List Char) :=
  let whole := decimals cs
  let fraction := match whole.2 with
    | '.' :: rest => some (decimals rest)
    | _ => none
  let rest := (fraction.map (·.2)).getD whole.2
  let exponent := afterExponent? rest
  let rest := exponent.getD rest
  if whole.1.isEmpty && (fraction.map (·.1)).all (·.isEmpty) then none
  else
    match rest with
    | 'j' :: rest => some (.imaginary, rest)
    | 'J' :: rest => some (.imaginary, rest)
    | rest =>
      if fraction.isSome || exponent.isSome || isWhole whole.1 then some (.real, rest) else none

def isNameChar (c : Char) : Bool := c.isAlphanum || c == '_' || 0x80 ≤ c.toNat

/-- A number and the text behind it, which does not go on like a name. -/
def number? (cs : List Char) : Option (LiteralKind × List Char) :=
  let read := match cs with
    | '0' :: letter :: rest =>
      match digitsOfBase? letter with
      | some isDigit =>
        let read := underscored isDigit rest
        if read.1.isEmpty then none else some (LiteralKind.real, read.2)
      | none => decimalNumber? cs
    | _ => decimalNumber? cs
  read.filter fun r => !r.2.head?.any isNameChar

/-! Texts in quotes. -/

/-- The text before the closing quotes and the text behind them. Three quotes may enclose line
breaks. -/
def untilQuote? (quote : Char) (three : Bool) : List Char → Option (List Char × List Char)
  | [] => none
  | ['\\'] => none
  | '\\' :: c :: cs => (untilQuote? quote three cs).map fun r => ('\\' :: c :: r.1, r.2)
  | c :: cs =>
    if c = quote ∧ (!three ∨ [quote, quote].isPrefixOf cs) then some
      ([], if three then cs.drop 2 else cs)
    else if c = '\n' ∧ !three then none
    else (untilQuote? quote three cs).map fun r => (c :: r.1, r.2)

/-- Whether a text begins with so many hexadecimal digits. -/
def beginsHexadecimal (count : Nat) (cs : List Char) : Bool :=
  count ≤ cs.length && (cs.take count).all fun c => (Text.hexDigit? c).isSome

/-- Whether all escapes can be read. Only texts of characters know code points; their names are not
known. -/
def escapesRead (bytes : Bool) : List Char → Bool
  | '\\' :: 'x' :: cs => beginsHexadecimal 2 cs && escapesRead bytes cs
  | '\\' :: 'u' :: cs => (bytes || beginsHexadecimal 4 cs) && escapesRead bytes cs
  | '\\' :: 'U' :: cs =>
    (bytes || beginsHexadecimal 8 cs && (Text.hex? (cs.take 8)).any (· < 0x110000)) &&
      escapesRead bytes cs
  | '\\' :: 'N' :: cs => bytes && escapesRead bytes cs
  | '\\' :: _ :: cs => escapesRead bytes cs
  | _ :: cs => escapesRead bytes cs
  | [] => true

/-- The letters that can stand before quotes, in small letters. -/
def quoteLetters : List String := ["", "r", "u", "b", "br", "rb"]

/-- A text in quotes behind the given letters, and the text behind it. -/
def quoted? (letters cs : List Char) : Option (LiteralToken × List Char) :=
  let small := Text.lower letters
  let bytes := small.contains 'b'
  match cs with
  | quote :: rest =>
    let three := [quote, quote].isPrefixOf rest
    match untilQuote? quote three (if three then rest.drop 2 else rest) with
    | some (inside, behind) =>
      if quoteLetters.contains (String.ofList small) ∧
        (small.contains 'r' ∨ escapesRead bytes inside) ∧
          (!bytes ∨ inside.all (·.toNat < 0x80)) then some (.quoted bytes, behind)
      else none
    | none => none
  | [] => none

/-! Tokens. -/

def constantNames : List String := ["None", "True", "False"]

/-- A name, or a text in quotes with letters in front, and the text behind it. -/
def named? (cs : List Char) : Option (LiteralToken × List Char) :=
  let name := cs.takeWhile isNameChar
  let rest := cs.drop name.length
  if rest.head? = some '\x27' ∨ rest.head? = some '\x22' then quoted? name rest
  else if constantNames.contains (String.ofList name) then some (.value .key, rest)
  else if name = "set".toList then some (.emptySet, rest)
  else none

def signTokens : List (Char × LiteralToken) :=
  [('+', .sign), ('-', .sign), (',', .comma), (':', .colon), ('(', .opening), (')', .closing),
   ('\x7b', .openBrace), ('\x7d', .closeBrace)]

def literalToken? (cs : List Char) : Option (LiteralToken × List Char) :=
  match cs with
  | '.' :: '.' :: '.' :: rest => some (.value .key, rest)
  | c :: rest =>
    match signTokens.lookup c with
    | some token => some (token, rest)
    | none =>
      if c.isDigit ∨ c = '.' then (number? cs).map fun r => (.value r.1, r.2) else named? cs
  | [] => none

/-- How many brackets can be open at once. -/
def maxOpen : Nat := 200

/-- How many brackets are open behind a token. -/
def openAfter (depth : Nat) : LiteralToken → Nat
  | .opening => depth + 1
  | .openBrace => depth + 1
  | .closing => depth - 1
  | .closeBrace => depth - 1
  | _ => depth

/-- A line without tokens. -/
def isEmptyLine (line : List Char) : Bool :=
  (line.dropWhile fun c => c == ' ' || c == '\t' || c == '\x0c').head?.all (· == '#')

/-- The tokens of a text inside `depth` brackets. Blanks, comments and, inside of brackets, line
breaks stand between tokens; outside of brackets only empty lines can follow a line break. -/
def literalTokens (depth : Nat) : Nat → List Char → Option (List LiteralToken)
  | _, [] => some []
  | 0, _ => none
  | fuel + 1, c :: cs =>
    if c = ' ' ∨ c = '\t' ∨ c = '\x0c' then literalTokens depth fuel cs
    else if c = '#' then literalTokens depth fuel (cs.dropWhile (· != '\n'))
    else if c = '\n' then
      if depth = 0 then
        if (Text.splitWhere (· == '\n') cs).all isEmptyLine then some [] else none
      else literalTokens depth fuel cs
    else if c = '\\' then
      if cs.head? = some '\n' ∧ cs.tail ≠ [] then literalTokens depth fuel cs.tail else none
    else
      match literalToken? (c :: cs) with
      | none => none
      | some (token, rest) =>
        if maxOpen < openAfter depth token then none
        else (literalTokens (openAfter depth token) fuel rest).map (token :: ·)

/-! Values. -/

mutual

/-- Reads a value: a part, a part with a sign, or the sum of two of them. -/
def readValue : Nat → List LiteralToken → Option (LiteralKind × List LiteralToken)
  | 0, _ => none
  | fuel + 1, tokens => do
    let (part, rest) ← readPart fuel (if tokens.head? = some .sign then tokens.tail else tokens)
    let left ← if tokens.head? = some .sign then part.withSign? else some part
    if rest.head? = some .sign then
      let (right, rest) ← readPart fuel rest.tail
      return (← left.plus? right, rest)
    else return (left, rest)

/-- Reads a value that is neither signed nor a sum: a number, texts in a row, a constant, or what
stands between two brackets. -/
def readPart : Nat → List LiteralToken → Option (LiteralKind × List LiteralToken)
  | 0, _ => none
  | fuel + 1, tokens =>
    match tokens with
    | .value kind :: rest => some (kind, rest)
    | .quoted bytes :: rest =>
      let behind := rest.dropWhile (· == .quoted bytes)
      if behind.head? = some (.quoted !bytes) then none else some (.key, behind)
    | .emptySet :: .opening :: .closing :: rest => some (.container, rest)
    | .opening :: .closing :: rest => some (.key, rest)
    | .opening :: rest =>
      match readValue fuel rest with
      | some (kind, .closing :: rest) => some (kind, rest)
      | some (kind, .comma :: rest) =>
        (readItems .closing fuel rest).map fun r => (LiteralKind.tuple (kind :: r.1), r.2)
      | _ => none
    | .openBrace :: .closeBrace :: rest => some (.container, rest)
    | .openBrace :: rest =>
      match readValue fuel rest with
      | some (_, .colon :: _) => (readEntries fuel rest).map fun rest => (.container, rest)
      | some (kind, .closeBrace :: rest) =>
        if kind = .container then none else some (.container, rest)
      | some (kind, .comma :: rest) =>
        match readItems .closeBrace fuel rest with
        | some (kinds, rest) =>
          if (kind :: kinds).contains .container then none else some (.container, rest)
        | none => none
      | _ => none
    | _ => none

/-- Reads values with commas between them up to a bracket. The last one may have a comma behind
it. -/
def readItems (bracket : LiteralToken) :
    Nat → List LiteralToken → Option (List LiteralKind × List LiteralToken)
  | 0, _ => none
  | fuel + 1, tokens =>
    if tokens.head? = some bracket then some ([], tokens.tail)
    else
      match readValue fuel tokens with
      | none => none
      | some (kind, rest) =>
        if rest.head? = some bracket then some ([kind], rest.tail)
        else if rest.head? = some .comma then
          (readItems bracket fuel rest.tail).map fun r => (kind :: r.1, r.2)
        else none

def readEntries : Nat → List LiteralToken → Option (List LiteralToken)
  | 0, _ => none
  | fuel + 1, tokens =>
    match readValue fuel tokens with
    | some (kind, .colon :: rest) =>
      if kind = .container then none
      else
        match readValue fuel rest with
        | some (_, .closeBrace :: rest) => some rest
        | some (_, .comma :: .closeBrace :: rest) => some rest
        | some (_, .comma :: rest) => readEntries fuel rest
        | _ => none
    | _ => none

end

/-- The text from its first line with tokens on. -/
def dropEmptyLines (cs : List Char) : List Char :=
  List.intercalate ['\n'] ((Text.splitWhere (· == '\n') cs).dropWhile isEmptyLine)

/-- The tokens of a text that is not indented. -/
def tokensOf? (cs : List Char) : Option (List LiteralToken) :=
  let text := dropEmptyLines (Text.normalizeLineBreaks cs)
  if text.contains '\x00' ∨ text.head?.any (fun c => c == ' ' || c == '\t') then none
  else literalTokens 0 text.length text

/-- Whether a text is a literal. Values with commas between them are a tuple without brackets. -/
def isLiteral (cs : List Char) : Bool :=
  match tokensOf? cs with
  | none => false
  | some [] => false
  | some tokens =>
    match readPart (4 * tokens.length + 4) (.opening :: tokens ++ [.closing]) with
    | some (_, rest) => rest.isEmpty
    | none => false

end TwinNode.Console
