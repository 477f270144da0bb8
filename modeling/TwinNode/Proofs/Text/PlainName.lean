import TwinNode.Markup.Block
import TwinNode.Proofs.Text.Absence
import TwinNode.Text.Blank
import TwinNode.Text.LowerCase

/-! Names of ASCII letters, digits, underscores and hyphens. Nothing in them means anything
to a script, to markup, to JSON or in a path. -/

namespace TwinNode.Text

/-- An ASCII letter, a digit, an underscore or a hyphen. -/
def isPlain (c : Char) : Bool := c.isAlphanum || c == '_' || c == '-'

structure PlainName (name : String) : Prop where
  nonempty : name ≠ ""
  plain : ∀ c ∈ name.toList, isPlain c = true

theorem PlainName.toList_ne_nil {name : String} (h : PlainName name) : name.toList ≠ [] := fun hn =>
  h.nonempty (String.toList_eq_nil_iff.1 hn)

/-- What holds of the first 128 characters holds of every ASCII character. -/
theorem ascii_forall {p : Char → Bool} (h : ((List.range 128).all fun n => p (Char.ofNat n)) = true)
    {c : Char} (hc : c.toNat < 128) : p c = true := by
  have hn := List.all_eq_true.1 h c.toNat (List.mem_range.2 hc)
  rwa [Char.ofNat_toNat] at hn

section Plain

variable {c : Char} (h : isPlain c = true)
include h

theorem toNat_lt_of_plain : c.toNat < 128 := by
  have bound {last : Char} (hlast : last.toNat < 128) (hc : c.val ≤ last.val) : c.toNat < 128 :=
    Nat.lt_of_le_of_lt (UInt32.le_iff_toNat_le.1 hc) hlast
  simp only [isPlain, Char.isAlphanum, Bool.or_eq_true, beq_iff_eq] at h
  rcases h with (h | rfl) | rfl
  · rcases h with h | h
    · rcases Bool.or_eq_true_iff.1 h with h | h
      · have hupper : c.val ≥ 'A'.val ∧ c.val ≤ 'Z'.val := of_decide_eq_true h
        exact bound (by decide) hupper.2
      · exact bound (by decide) (show c.val ≤ 'z'.val from of_decide_eq_true
          (Bool.and_eq_true_iff.1 h).2)
    · exact Nat.lt_of_le_of_lt (Char.isDigit_iff_toNat.1 h).2 (by decide)
  · decide
  · decide

/-- What holds of the plain ones among the first 128 characters holds of every plain character. -/
theorem plain_forall {p : Char → Bool}
    (hp : ((List.range 128).all fun n => !isPlain (Char.ofNat n) || p (Char.ofNat n)) = true) :
    p c = true := by
  have hc := ascii_forall (p := fun d => !isPlain d || p d) hp (toNat_lt_of_plain h)
  simpa [h] using hc

theorem plain_ne {d : Char} (hd : isPlain d = false) : c ≠ d := by
  rintro rfl
  rw [h] at hd
  cases hd

theorem isBlank_of_plain : isBlank c = false := by
  have hb := plain_forall (p := fun d => !isBlank d) h (by decide)
  simpa using hb

theorem plain_toLower : isPlain c.toLower = true :=
  plain_forall (p := fun d => isPlain d.toLower) h (by decide)

theorem blank_of_plain : Script.blank c = ' ' := if_neg (plain_ne h rfl)

end Plain

theorem PlainName.not_mem {name : String} (h : PlainName name) {d : Char} (hd : isPlain d = false) :
    d ∉ name.toList := fun hm => plain_ne (h.plain d hm) hd rfl

theorem PlainName.lower {name : String} (h : PlainName name) :
    lower name.toList = name.toList.map Char.toLower :=
  lower_ascii _ fun c hc => toNat_lt_of_plain (h.plain c hc)

theorem trim_eq_self {cs : List Char} (h : ∀ c ∈ cs, isBlank c = false) : trim cs = cs := by
  have keep : ∀ {ds : List Char}, (∀ c ∈ ds, isBlank c = false) → ds.dropWhile isBlank = ds := by
    intro ds hds
    cases ds with
    | nil => rfl
    | cons d ds =>
      rw [List.dropWhile_cons, hds d List.mem_cons_self]
      rfl
  have hrev : ∀ c ∈ cs.reverse, isBlank c = false := fun c hc => h c (List.mem_reverse.1 hc)
  rw [trim, trimLeft, keep h, trimRight, keep hrev, List.reverse_reverse]

theorem trim_of_plain {cs : List Char} (h : ∀ c ∈ cs, isPlain c = true) : trim cs = cs :=
  trim_eq_self fun c hc => isBlank_of_plain (h c hc)

end TwinNode.Text
