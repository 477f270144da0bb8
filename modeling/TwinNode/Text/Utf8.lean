/-! Bytes are read as characters one at a time. A byte that cannot go on what came before it
ends that as an invalid stretch, and is read afresh; so each invalid stretch is as long as
some valid character begins. -/

namespace TwinNode.Text

/-- Where reading stands between two bytes. -/
inductive Utf8State where
  | start
  /-- Inside a character: how many bytes are missing, the least and the greatest value of the next
  one, and the value read so far. -/
  | inside (missing : Nat) (least greatest : UInt8) (value : Nat)
  deriving DecidableEq, Repr

/-- Reads the first byte of a character: a character, or an invalid byte as `none`, if it ends one,
and the state after it. -/
def firstByte (b : UInt8) : List (Option Char) × Utf8State :=
  let n := b.toNat
  if n < 0x80 then ([some (Char.ofNat n)], .start)
  else if n < 0xC2 then ([none], .start)
  else if n < 0xE0 then ([], .inside 1 0x80 0xBF (n - 0xC0))
  else if n = 0xE0 then ([], .inside 2 0xA0 0xBF 0)
  else if n = 0xED then ([], .inside 2 0x80 0x9F 0xD)
  else if n < 0xF0 then ([], .inside 2 0x80 0xBF (n - 0xE0))
  else if n = 0xF0 then ([], .inside 3 0x90 0xBF 0)
  else if n < 0xF4 then ([], .inside 3 0x80 0xBF (n - 0xF0))
  else if n = 0xF4 then ([], .inside 3 0x80 0x8F 4)
  else ([none], .start)

/-- Reads one byte: what ends with it, and the state after it. -/
def nextByte (b : UInt8) : Utf8State → List (Option Char) × Utf8State
  | .start => firstByte b
  | .inside missing least greatest value =>
    if least ≤ b ∧ b ≤ greatest then
      let value := value * 0x40 + (b.toNat - 0x80)
      if missing ≤ 1 then ([some (Char.ofNat value)], .start)
      else ([], .inside (missing - 1) 0x80 0xBF value)
    else (none :: (firstByte b).1, (firstByte b).2)

/-- The characters that bytes encode, with `none` for each invalid stretch. -/
def decodeFrom (state : Utf8State) : List UInt8 → List (Option Char)
  | [] => match state with
    | .start => []
    | .inside .. => [none]
  | b :: bs => (nextByte b state).1 ++ decodeFrom (nextByte b state).2 bs

/-- The characters that bytes encode, if all of them are valid. -/
def decodeStrict? (bytes : List UInt8) : Option (List Char) :=
  (decodeFrom .start bytes).mapM id

/-- The characters that bytes encode, U+FFFD for each invalid stretch. -/
def decodeRepaired (bytes : List UInt8) : List Char :=
  (decodeFrom .start bytes).map (·.getD '\ufffd')

def byteOrderMark : List UInt8 := [0xEF, 0xBB, 0xBF]

/-- The bytes after a byte order mark. A file that breaks off inside the mark is empty. -/
def dropByteOrderMark (bytes : List UInt8) : List UInt8 :=
  if bytes.take 3 = byteOrderMark.take bytes.length then bytes.drop 3 else bytes

/-- Line breaks of all three kinds become line feeds. -/
def normalizeLineBreaks : List Char → List Char
  | [] => []
  | '\r' :: '\n' :: cs => '\n' :: normalizeLineBreaks cs
  | c :: cs => (if c = '\r' then '\n' else c) :: normalizeLineBreaks cs

/-- The text of a file of a package. -/
def readText (bytes : List UInt8) : List Char :=
  normalizeLineBreaks (decodeRepaired (dropByteOrderMark bytes))

/-- The text of a file that has to be valid. -/
def readTextStrict? (bytes : List UInt8) : Option (List Char) :=
  (decodeStrict? bytes).map normalizeLineBreaks

end TwinNode.Text
