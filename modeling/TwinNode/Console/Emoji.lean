import TwinNode.Console.EmojiTable
import TwinNode.Text.Hexadecimal
import TwinNode.Text.LowerCase
import TwinNode.Text.Split

/-! A name between colons stands for an emoji. Behind the name the look of the emoji can be
asked for, that of a picture or that of text. -/

namespace TwinNode.Console

def pairUp : List α → List (α × α)
  | a :: b :: rest => (a, b) :: pairUp rest
  | _ => []

/-- The names of emoji with their code points. -/
def emojiEntries : List (List Char × List Char) := pairUp (Text.words emojiTable.toList)

/-- The characters whose code points are written in hexadecimal with hyphens between them. -/
def charactersOf (codePoints : List Char) : List Char :=
  (Text.splitWhere (· == '-') codePoints).map fun digits => Char.ofNat ((Text.hex? digits).getD 0)

def emoji? (name : List Char) : Option (List Char) :=
  (emojiEntries.lookup (Text.lower name)).map charactersOf

/-- How a look is asked for, and the character that selects it. -/
def looks : List (String × Char) := [("-emoji", '\ufe0f'), ("-text", '\ufe0e')]

/-- The emoji that a name stands for, with a look behind the name or without. -/
def emojiWithLook? (name : List Char) : Option (List Char) :=
  match looks.find? fun look => look.1.toList.isSuffixOf name with
  | some look => (emoji? (name.take (name.length - look.1.length))).map (· ++ [look.2])
  | none => emoji? name

/-- Splits off the text before the next colon, if there is one and no blank before it. -/
def untilColon? (cs : List Char) : Option (List Char × List Char) :=
  let name := cs.takeWhile fun c => c != ':' && !Text.isBlank c
  match cs.drop name.length with
  | ':' :: rest => some (name, rest)
  | _ => none

theorem untilColon?_length {cs name rest : List Char} (h : untilColon? cs = some (name, rest)) :
    rest.length < cs.length := by
  simp only [untilColon?] at h
  split at h
  · rename_i tail htail
    cases h
    have hlen := congrArg List.length htail
    simp only [List.length_drop, List.length_cons] at hlen
    omega
  · simp at h

/-- The text with emoji in place of their names. An unknown name stays as it is, and so do its
colons; neither of them begins another name. -/
def replaceNames : List Char → List Char
  | [] => []
  | c :: cs =>
    if c = ':' then
      match _h : untilColon? cs with
      | some (name, rest) => (emojiWithLook? name).getD (':' :: name ++ [':']) ++ replaceNames rest
      | none => c :: replaceNames cs
    else c :: replaceNames cs
termination_by cs => cs.length
decreasing_by
  · exact Nat.lt_succ_of_lt (untilColon?_length _h)
  · simp
  · simp

end TwinNode.Console
