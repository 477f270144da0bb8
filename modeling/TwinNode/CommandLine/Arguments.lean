/-! The words of a command line are options and operands. A long option begins with two
hyphens and may have its value after an equals sign; short options begin with one hyphen and
may be written together, and the last of them may have its value right behind it. A value
can also be the next word, whatever it looks like. After `--` every word is an operand. -/

namespace TwinNode.CommandLine

/-- An option that a command knows. -/
structure OptionSpec (α : Type) where
  key : α
  long : String
  short : Option Char := none
  takesValue : Bool := false

/-- Options with their values, in order, and the words that are left. -/
structure Split (α : Type) where
  options : List (α × String) := []
  rest : List String := []

def Split.push (option : α × String) (s : Split α) : Split α :=
  { s with options := option :: s.options }

/-- Reads the letters of a word of short options; a value may take the next word. -/
def shortOptions? (specs : List (OptionSpec α)) (words : List String) : List Char → Option (Split α)
  | [] => some ⟨[], words⟩
  | c :: cs =>
    match specs.find? (·.short == some c) with
    | none => none
    | some spec =>
      if spec.takesValue then
        match cs, words with
        | [], [] => none
        | [], value :: words => some ⟨[(spec.key, value)], words⟩
        | cs, words => some ⟨[(spec.key, String.ofList cs)], words⟩
      else (shortOptions? specs words cs).map (·.push (spec.key, ""))

theorem shortOptions?_length {specs : List (OptionSpec α)} {words : List String} {cs : List Char}
    {s : Split α} (h : shortOptions? specs words cs = some s) : s.rest.length ≤ words.length := by
  induction cs generalizing s with
  | nil => cases h; exact Nat.le_refl _
  | cons c cs ih =>
    simp only [shortOptions?] at h
    split at h
    · simp at h
    · split at h
      · split at h
        · simp at h
        · cases h; simp
        · cases h; exact Nat.le_refl _
      · obtain ⟨t, ht, rfl⟩ := Option.map_eq_some_iff.1 h
        have hlt : t.rest.length ≤ words.length := ih ht
        exact hlt

/-- Reads a long option; a value may take the next word. -/
def longOption? (specs : List (OptionSpec α)) (words : List String) (word : List Char) :
    Option (Split α) :=
  let name := word.takeWhile (· != '=')
  let attached := if name.length < word.length then some (word.drop (name.length + 1)) else none
  match specs.find? (·.long == String.ofList name) with
  | none => none
  | some spec =>
    match spec.takesValue, attached, words with
    | true, some value, words => some ⟨[(spec.key, String.ofList value)], words⟩
    | true, none, value :: words => some ⟨[(spec.key, value)], words⟩
    | true, none, [] => none
    | false, none, words => some ⟨[(spec.key, "")], words⟩
    | false, some _, _ => none

theorem longOption?_length {specs : List (OptionSpec α)} {words : List String} {word : List Char}
    {s : Split α} (h : longOption? specs words word = some s) : s.rest.length ≤ words.length := by
  unfold longOption? at h
  dsimp only at h
  split at h
  · simp at h
  · split at h <;> first | simp at h; done | (cases h; simp)

def option? (specs : List (OptionSpec α)) (words : List String) (word : List Char) :
    Option (Split α) :=
  match word with
  | '-' :: '-' :: _ => longOption? specs words word
  | _ :: letters => shortOptions? specs words letters
  | [] => none

theorem option?_length {specs : List (OptionSpec α)} {words : List String} {word : List Char}
    {s : Split α} (h : option? specs words word = some s) : s.rest.length ≤ words.length := by
  unfold option? at h
  split at h
  · exact longOption?_length h
  · exact shortOptions?_length h
  · simp at h

/-- Separates options from operands. If `mixed`, options may come after operands; otherwise the
first operand ends the options. An unknown option or a missing value gives nothing. -/
def split? (specs : List (OptionSpec α)) (mixed : Bool) : List String → Option (Split α)
  | [] => some {}
  | word :: words =>
    if word = "--" then some ⟨[], words⟩
    else if word.toList.head? = some '-' ∧ word ≠ "-" then
      match _h : option? specs words word.toList with
      | none => none
      | some read =>
        (split? specs mixed read.rest).map fun s => { s with options := read.options ++ s.options }
    else if mixed then
      (split? specs mixed words).map fun s => { s with rest := word :: s.rest }
    else some ⟨[], word :: words⟩
termination_by words => words.length
decreasing_by
  · exact Nat.lt_succ_of_le (option?_length _h)
  · simp

/-- The value of an option; the last one counts. -/
def Split.value? [BEq α] (s : Split α) (key : α) : Option String :=
  (s.options.reverse.find? (·.1 == key)).map (·.2)

def Split.has [BEq α] (s : Split α) (key : α) : Bool := s.options.any (·.1 == key)

end TwinNode.CommandLine
