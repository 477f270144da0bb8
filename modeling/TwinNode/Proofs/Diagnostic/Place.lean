import Mathlib.Data.Nat.Digits.Defs
import TwinNode.Proofs.Diagnostic.Order

namespace TwinNode

open TwinNode.Text

theorem digit?_of_isDigit {c : Char} (h : c.isDigit = true) :
    digit? c = some (c.toNat - '0'.toNat) := by
  obtain ⟨hleast, hmost⟩ := Char.isDigit_iff_toNat.1 h
  have hrow : (decide (0x30 ≤ c.toNat) && decide (c.toNat < 0x30 + 10)) = true := by
    simp only [Bool.and_eq_true, decide_eq_true_eq]
    exact ⟨hleast, Nat.lt_succ_of_le hmost⟩
  have hfirst : zeros.find? (fun first => first ≤ c.toNat && c.toNat < first + 10) = some 0x30 :=
    List.find?_cons_of_pos hrow
  unfold digit?
  rw [hfirst]
  rfl

theorem isDigit_of_mem_toDigits {n : ℕ} {c : Char} (h : c ∈ Nat.toDigits 10 n) :
    isDigit c = true := by
  rw [isDigit, digit?_of_isDigit (Nat.isDigit_of_mem_toDigits (by decide) (by decide) h)]
  rfl

theorem readDigits_toDigits (n : ℕ) : readDigits (Nat.toDigits 10 n) = n := by
  have hfold : readDigits (Nat.toDigits 10 n) = Nat.ofDigitChars 10 (Nat.toDigits 10 n) 0 := by
    refine List.foldl_ext _ _ _ fun value c hc => ?_
    rw [digit?_of_isDigit (Nat.isDigit_of_mem_toDigits (by decide) (by decide) hc), Nat.mul_comm]
    rfl
  rw [hfold, Nat.ofDigitChars_ten_toDigits]

theorem numberAfter?_toDigits {name : String} {cs : List Char} (n : ℕ) {rest : List Char}
    (hcs : cs = name.toList ++ (Nat.toDigits 10 n ++ rest))
    (hrest : ∀ c ∈ rest.head?, isDigit c = false) :
    numberAfter? name cs = some (Nat.toDigits 10 n, rest) := by
  have hdigits : ∀ c ∈ Nat.toDigits 10 n, isDigit c = true := fun c hc => isDigit_of_mem_toDigits hc
  have hstop : rest.takeWhile isDigit = [] := by
    cases rest with
    | nil => rfl
    | cons c rest => rw [List.takeWhile_cons, hrest c rfl, if_neg Bool.false_ne_true]
  have htake : (Nat.toDigits 10 n ++ rest).takeWhile isDigit = Nat.toDigits 10 n := by
    rw [List.takeWhile_append_of_pos hdigits, hstop, List.append_nil]
  have hne : (Nat.toDigits 10 n).isEmpty = false := by
    rw [List.isEmpty_eq_false_iff]
    exact Nat.toDigits_ne_nil
  unfold numberAfter?
  rw [after?_eq_some_iff.2 hcs, Option.bind_some]
  simp only [htake, hne, List.drop_left, Bool.false_eq_true, if_false]

theorem readDigits?_toDigits {n : ℕ} (h : n < 10 ^ maxDigits) :
    readDigits? (Nat.toDigits 10 n) = some n := by
  unfold readDigits?
  rw [if_pos (Nat.toDigits_length 10 n maxDigits (by decide) h), readDigits_toDigits]

namespace LocationKey

theorem ofLocation_number {place : String} {n : ℕ} {rest : List Char}
    (hplace : place.toList = "line ".toList ++ (Nat.toDigits 10 n ++ rest))
    (hrest : ∀ c ∈ rest.head?, isDigit c = false) :
    ofLocation (some place) =
      match readDigits? (Nat.toDigits 10 n),
        readDigits? (((numberAfter? ", column " rest).map (·.1)).getD ['0']) with
      | some line, some column => .ok ⟨1, line, column, place⟩
      | _, _ => .error .longNumber := by
  have hne : nonempty? (some place) = some place := by
    refine Option.filter_eq_some_iff.2 ⟨rfl, ?_⟩
    have : place ≠ "" := by
      rintro rfl
      cases hplace
    simpa using this
  have hnumber := numberAfter?_toDigits n hplace hrest
  unfold ofLocation
  rw [hne]
  dsimp only
  generalize numberAfter? "line " place.toList = number at hnumber ⊢
  subst hnumber
  rfl

theorem toList_line (n : ℕ) :
    ("line " ++ toString n).toList = "line ".toList ++ (Nat.toDigits 10 n ++ []) := by
  rw [String.toList_append, Nat.toString_eq_repr, Nat.toList_repr, List.append_nil]

theorem toList_column (n m : ℕ) : ("line " ++ toString n ++ ", column " ++ toString m).toList =
    "line ".toList ++ (Nat.toDigits 10 n ++ (", column ".toList ++ Nat.toDigits 10 m)) := by
  simp only [String.toList_append, Nat.toString_eq_repr, Nat.toList_repr, List.append_assoc]

theorem comma_not_digit (m : ℕ) :
    ∀ c ∈ (", column ".toList ++ Nat.toDigits 10 m).head?, isDigit c = false := by
  intro c hc
  obtain rfl := Option.some.inj hc
  decide

theorem numberAfter?_column (m : ℕ) :
    numberAfter? ", column " (", column ".toList ++ Nat.toDigits 10 m) =
      some (Nat.toDigits 10 m, []) :=
  numberAfter?_toDigits m (by rw [List.append_nil]) (by simp)

/-- A location that has a place in the order. -/
def Placed (location : Option String) : Prop := ∃ key, ofLocation location = .ok key

theorem placed_none : Placed none := ⟨_, rfl⟩

/-- A location that does not begin with a line is ordered as a text. -/
theorem placed_other {place : String} (h : after? "line ".toList place.toList = none) :
    Placed (some place) := by
  unfold Placed ofLocation
  cases hne : nonempty? (some place) with
  | none => exact ⟨_, rfl⟩
  | some text =>
    obtain rfl := Option.some.inj (Option.filter_eq_some_iff.1 hne).1
    have hnumber : numberAfter? "line " place.toList = none := by
      unfold numberAfter?
      rw [h, Option.bind_none]
    simp only [hnumber]
    exact ⟨_, rfl⟩

theorem placed_line {n : ℕ} (h : n < 10 ^ maxDigits) : Placed (some ("line " ++ toString n)) := by
  refine ⟨⟨1, n, 0, "line " ++ toString n⟩, ?_⟩
  rw [ofLocation_number (toList_line n) (by simp), readDigits?_toDigits h]
  rfl

theorem placed_column {n m : ℕ} (hn : n < 10 ^ maxDigits) (hm : m < 10 ^ maxDigits) :
    Placed (some ("line " ++ toString n ++ ", column " ++ toString m)) := by
  refine ⟨⟨1, n, m, "line " ++ toString n ++ ", column " ++ toString m⟩, ?_⟩
  rw [ofLocation_number (toList_column n m) (comma_not_digit m), numberAfter?_column,
    Option.map_some, Option.getD_some, readDigits?_toDigits hn, readDigits?_toDigits hm]

end LocationKey

end TwinNode
