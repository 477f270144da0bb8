import TwinNode.Text.Blank

namespace TwinNode.Text

/-- The pieces of a text between the characters that separate them; one more than there are of
those. -/
def splitWhere (separates : Char → Bool) (cs : List Char) : List (List Char) :=
  cs.foldr
    (fun c pieces => if separates c then [] :: pieces else match pieces with
      | piece :: rest => (c :: piece) :: rest
      | [] => [[c]]) [[]]

theorem splitWhere_separator {separates : Char → Bool} {c : Char}
    (h : separates c = true) (cs : List Char) :
    splitWhere separates (c :: cs) = [] :: splitWhere separates cs := by
  simp [splitWhere, h]

theorem splitWhere_ne_nil (separates : Char → Bool) (cs : List Char) :
    splitWhere separates cs ≠ [] := by
  cases cs with
  | nil => simp [splitWhere]
  | cons c cs =>
    simp only [splitWhere, List.foldr_cons]
    split
    · simp
    · split <;> simp

/-- The stretches without blanks. -/
def words (cs : List Char) : List (List Char) :=
  (splitWhere isBlank cs).filter (!·.isEmpty)

end TwinNode.Text
