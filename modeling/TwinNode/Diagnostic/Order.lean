import TwinNode.Diagnostic
import TwinNode.Text.Digit
import TwinNode.Text.Spelling

/-! Diagnostics are ordered by path, then by rule, then by place, then by message. Numbers
inside rule ids and places count as numbers, so `R2` comes before `R10` and line 9 before
line 10. -/

namespace TwinNode

open TwinNode.Text

/-- Why a diagnostic has no place in the order. -/
inductive OrderError where
  /-- A rule id with a line break inside. -/
  | brokenRuleId
  | longNumber
  deriving DecidableEq, Repr

/-- A rule id cut into letters, a number and the rest. -/
structure RuleKey where
  letters : String
  /-- The number; -1 if there is none. -/
  number : Int
  rest : String
  deriving DecidableEq, Repr

/-- The rest of a rule id: one line break at its end does not count, any other is refused. -/
def ruleIdRest? (cs : List Char) : Option (List Char) :=
  let line := cs.takeWhile (· != '\n')
  if cs = line ∨ cs = line ++ ['\n'] then some line else none

def RuleKey.ofId (id : String) : Except OrderError RuleKey :=
  let letters := id.toList.takeWhile Char.isAlpha
  let afterLetters := id.toList.drop letters.length
  let digits := afterLetters.takeWhile isDigit
  match ruleIdRest? (afterLetters.drop digits.length) with
  | none => .error .brokenRuleId
  | some rest =>
    if digits.isEmpty then .ok ⟨String.ofList letters, -1, String.ofList rest⟩
    else
      match readDigits? digits with
      | none => .error .longNumber
      | some n => .ok ⟨String.ofList letters, n, String.ofList rest⟩

/-- A place cut into its class (no place, a line, another place), line, column and text. -/
structure LocationKey where
  group : Nat
  line : Nat
  column : Nat
  text : String
  deriving DecidableEq, Repr

/-- The number after a spelling, and what follows it. -/
def numberAfter? (name : String) (cs : List Char) : Option (List Char × List Char) :=
  (after? name.toList cs).bind fun rest =>
    let digits := rest.takeWhile isDigit
    if digits.isEmpty then none else some (digits, rest.drop digits.length)

def LocationKey.ofLocation (location : Option String) : Except OrderError LocationKey :=
  match nonempty? location with
  | none => .ok ⟨0, 0, 0, ""⟩
  | some text =>
    match numberAfter? "line " text.toList with
    | none => .ok ⟨2, 0, 0, text⟩
    | some (line, rest) =>
      let column := ((numberAfter? ", column " rest).map (·.1)).getD ['0']
      match readDigits? line, readDigits? column with
      | some line, some column => .ok ⟨1, line, column, text⟩
      | _, _ => .error .longNumber

structure DiagnosticKey where
  path : String
  rule : RuleKey
  location : LocationKey
  message : String
  deriving DecidableEq, Repr

def Diagnostic.key (d : Diagnostic) : Except OrderError DiagnosticKey := do
  let rule ← RuleKey.ofId d.ruleId
  let location ← LocationKey.ofLocation d.location
  .ok ⟨d.path, rule, location, d.message⟩

def RuleKey.cmp : RuleKey → RuleKey → Ordering :=
  compareLex (compareOn (·.letters)) (compareLex (compareOn (·.number)) (compareOn (·.rest)))

def LocationKey.cmp : LocationKey → LocationKey → Ordering :=
  compareLex (compareOn (·.group)) (compareLex (compareOn (·.line))
    (compareLex (compareOn (·.column)) (compareOn (·.text))))

def DiagnosticKey.cmp : DiagnosticKey → DiagnosticKey → Ordering :=
  compareLex (compareOn (·.path)) (compareLex (fun a b => a.rule.cmp b.rule)
    (compareLex (fun a b => a.location.cmp b.location) (compareOn (·.message))))

/-- Sorts items by keys; items with equal keys stay in order. Fails if an item has no key. -/
def sortByKey (key : α → Except ε κ) (cmp : κ → κ → Ordering) (xs : List α) :
    Except ε (List α) := do
  let keyed ← xs.mapM fun x => (key x).map (·, x)
  .ok ((keyed.mergeSort fun a b => (cmp a.1 b.1).isLE).map (·.2))

theorem mapM_snd_of_ok {key : α → Except ε κ} {xs : List α} {keyed : List (κ × α)}
    (h : xs.mapM (fun x => (key x).map (·, x)) = .ok keyed) : keyed.map (·.2) = xs := by
  induction xs generalizing keyed with
  | nil => cases h; rfl
  | cons x xs ih =>
    rw [List.mapM_cons] at h
    cases hx : key x with
    | error e => rw [hx] at h; cases h
    | ok k =>
      rw [hx] at h
      cases hxs : xs.mapM (fun x => (key x).map (·, x)) with
      | error e => rw [hxs] at h; cases h
      | ok rest =>
        rw [hxs] at h
        cases h
        simp [ih hxs]

/-- Sorting loses nothing and adds nothing. -/
theorem sortByKey_perm {key : α → Except ε κ} {cmp : κ → κ → Ordering} {xs ys : List α}
    (h : sortByKey key cmp xs = .ok ys) : ys.Perm xs := by
  unfold sortByKey at h
  cases hk : xs.mapM (fun x => (key x).map (·, x)) with
  | error e => rw [hk] at h; cases h
  | ok keyed =>
    rw [hk] at h
    cases h
    rw [← mapM_snd_of_ok hk]
    exact (List.mergeSort_perm _ _).map _

def sortDiagnostics (ds : List Diagnostic) : Except OrderError (List Diagnostic) :=
  sortByKey Diagnostic.key DiagnosticKey.cmp ds

def sortRuleIds (ids : List String) : Except OrderError (List String) :=
  sortByKey RuleKey.ofId RuleKey.cmp ids

def sortLocations (locations : List (Option String)) : Except OrderError (List (Option String)) :=
  sortByKey LocationKey.ofLocation LocationKey.cmp locations

end TwinNode
