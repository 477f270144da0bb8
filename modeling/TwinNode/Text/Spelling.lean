namespace TwinNode.Text

/-- The text after the spelling `name`, if the text begins with it. -/
def after? : List Char → List Char → Option (List Char)
  | [], cs => some cs
  | _ :: _, [] => none
  | n :: name, c :: cs => if c = n then after? name cs else none

theorem after?_eq_some_iff {name cs rest : List Char} :
    after? name cs = some rest ↔ cs = name ++ rest := by
  induction name generalizing cs with
  | nil => simp [after?]
  | cons n name ih =>
    cases cs with
    | nil => simp [after?]
    | cons c cs =>
      by_cases h : c = n <;> simp [after?, h, ih]

end TwinNode.Text
