/-! In a text with escapes a character beyond U+FFFF is written as two code units. One of
them alone, from U+D800 to U+DFFF, is half of a character. A half is kept as a private
character, so that it can be told from other halves and from the characters that are in use;
it cannot be written to a file or a console. -/

namespace TwinNode.Text

/-- Whether a code point is half of a character. -/
def isHalfUnit (codePoint : Nat) : Bool := 0xD800 ≤ codePoint && codePoint < 0xE000

/-- The first of the private characters that stand for halves. -/
def firstHalf : Nat := 0x10F000

/-- The character that is kept for a code point; a half has a private one. -/
def charOf (codePoint : Nat) : Char :=
  Char.ofNat (if isHalfUnit codePoint then firstHalf + (codePoint - 0xD800) else codePoint)

def isHalf (c : Char) : Bool := firstHalf ≤ c.toNat && c.toNat < firstHalf + 0x800

/-- The code unit of a half. -/
def halfUnit (c : Char) : Nat := c.toNat - firstHalf + 0xD800

def hasHalf (text : String) : Bool := text.toList.any isHalf

theorem toNat_ofNat_valid {n : Nat} (h : n.isValidChar) : (Char.ofNat n).toNat = n := by
  have hchar : Char.ofNat n = Char.ofNatAux n h := dif_pos h
  rw [hchar]
  rfl

end TwinNode.Text
