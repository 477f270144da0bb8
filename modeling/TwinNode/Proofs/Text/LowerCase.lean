import Mathlib.Data.List.Basic
import TwinNode.Proofs.Path.Name
import TwinNode.Proofs.Text.PlainName
import TwinNode.Text.Half

/-! Of all characters that are not ASCII, only `İ` and the Kelvin sign have an ASCII
character in their small form: `i` and `k`. So a small form ends in a word without these
letters if and only if its own small form does. -/

namespace TwinNode.Text

/-- An ASCII character that is the small form of ASCII characters only. -/
def Unshared (c : Char) : Prop := c.toNat < 0x80 ∧ c ≠ 'i' ∧ c ≠ 'k'

instance (c : Char) : Decidable (Unshared c) := inferInstanceAs (Decidable (_ ∧ _))

theorem capitalRuns_targets : ∀ run ∈ capitalRuns, run = (0x212A, 0x212A, 1, 0x6B) ∨
    0x80 ≤ run.2.2.2 ∧ (run.2.2.2 + (run.2.1 - run.1) < 0xD800 ∨ 0xDFFF < run.2.2.2) ∧
      run.2.2.2 + (run.2.1 - run.1) < 0x110000 := by decide +kernel

theorem lowerChar_of_not_ascii {c : Char} (h : 0x80 ≤ c.toNat) :
    0x80 ≤ (lowerChar c).toNat ∨ lowerChar c = 'k' := by
  unfold lowerChar
  rw [if_neg (by omega)]
  split
  · next run hfind =>
    have hin := List.mem_of_find?_eq_some hfind
    have hrun := List.find?_some hfind
    simp only [Bool.and_eq_true, decide_eq_true_eq] at hrun
    rcases capitalRuns_targets run hin with rfl | ⟨hlow, hvalid, hhigh⟩
    · have hc : c.toNat - 0x212A = 0 := by
        have hlast : c.toNat ≤ 0x212A := hrun.1.2
        omega
      refine .inr ?_
      rw [hc]
    · have hlast := hrun.1.2
      have hvalid : (run.2.2.2 + (c.toNat - run.1)).isValidChar := by
        unfold Nat.isValidChar
        omega
      rw [toNat_ofNat_valid hvalid]
      exact .inl (by omega)
  · exact .inl h

/-- The small form of a character: one ASCII character for an ASCII one, else nothing that only
ASCII has. -/
theorem lowerAfter_cons (before : List Char) (c : Char) (cs : List Char) :
    ∃ small, lowerAfter before (c :: cs) = small ++ lowerAfter (c :: before) cs ∧ small ≠ [] ∧
      (c.toNat < 0x80 ∧ small = [c.toLower] ∨ ∀ a ∈ small, 0x80 ≤ a.toNat ∨ a = 'i' ∨ a = 'k') := by
  refine ⟨_, rfl, ?_⟩
  split
  · next hascii => exact ⟨List.cons_ne_nil _ _, .inl ⟨hascii, rfl⟩⟩
  · next hascii =>
    split
    · simp
    · split
      · split <;> simp
      · refine ⟨List.cons_ne_nil _ _, .inr fun a ha => ?_⟩
        obtain rfl := List.mem_singleton.1 ha
        rcases lowerChar_of_not_ascii (Nat.not_lt.1 hascii) with h | h
        · exact .inl h
        · exact .inr (.inr h)

/-- Capitals are not among the ASCII characters of a small form. -/
theorem toLower_of_mem_lowerAfter {before cs : List Char} :
    ∀ a ∈ lowerAfter before cs, a.toNat < 0x80 →
    a.toLower = a := by
  have hlower : ∀ c : Char, c.toNat < 0x80 → c.toLower.toLower = c.toLower := fun c hc => by
    simpa only [beq_iff_eq] using ascii_forall (p := fun d => d.toLower.toLower == d.toLower)
      (by decide) hc
  induction cs generalizing before with
  | nil => exact List.forall_mem_nil _
  | cons c cs ih =>
    obtain ⟨small, hstep, _, hsmall⟩ := lowerAfter_cons before c cs
    rw [hstep]
    intro a ha hascii
    rcases List.mem_append.1 ha with ha | ha
    · rcases hsmall with ⟨hc, rfl⟩ | hsmall
      · obtain rfl := List.mem_singleton.1 ha
        exact hlower c hc
      · rcases hsmall a ha with hbig | rfl | rfl
        · omega
        · rfl
        · rfl
    · exact ih a ha hascii

/-- A character whose small form has an unshared one is ASCII, and has no other character in its
small form. -/
theorem eq_toLower_of_unshared {c : Char} {small : List Char}
    (h : c.toNat < 0x80 ∧ small = [c.toLower] ∨ ∀ a ∈ small, 0x80 ≤ a.toNat ∨ a = 'i' ∨ a = 'k')
    {a : Char} (ha : a ∈ small) (hunshared : Unshared a) :
    c.toNat < 0x80 ∧ small = [c.toLower] := by
  obtain ⟨hascii, hi, hk⟩ := hunshared
  rcases h with h | h
  · exact h
  · rcases h a ha with hbig | rfl | rfl
    · omega
    · exact absurd rfl hi
    · exact absurd rfl hk

theorem ascii_of_lowerAfter {before cs : List Char} (h : ∀ a ∈ lowerAfter before cs, Unshared a) :
    ∀ c ∈ cs, c.toNat < 0x80 := by
  induction cs generalizing before with
  | nil => exact List.forall_mem_nil _
  | cons c cs ih =>
    obtain ⟨small, hstep, hne, hsmall⟩ := lowerAfter_cons before c cs
    rw [hstep] at h
    obtain ⟨a, ha⟩ := List.exists_mem_of_ne_nil small hne
    have hc := eq_toLower_of_unshared hsmall ha (h a (List.mem_append_left _ ha))
    exact List.forall_mem_cons.2 ⟨hc.1, ih fun d hd => h d (List.mem_append_right _ hd)⟩

/-- A word at the end of a small form is the small form of an end of the text, letter for letter, if
its characters are unshared. -/
theorem exists_ending {word before cs : List Char} (hword : ∀ a ∈ word, Unshared a)
    (h : word <:+ lowerAfter before cs) :
    ∃ front ending, front ++ ending = cs ∧ (∀ c ∈ ending, c.toNat < 0x80) ∧
      ending.map Char.toLower = word := by
  induction cs generalizing before with
  | nil => exact ⟨[], [], rfl, List.forall_mem_nil _, (List.suffix_nil.1 h).symm⟩
  | cons c cs ih =>
    obtain ⟨small, hstep, _, hsmall⟩ := lowerAfter_cons before c cs
    rw [hstep] at h
    obtain ⟨start, hstart⟩ := h
    have later : word <:+ lowerAfter (c :: before) cs →
        ∃ front ending, front ++ ending = c :: cs ∧ (∀ c ∈ ending, c.toNat < 0x80) ∧
          ending.map Char.toLower = word := by
      intro hrest
      obtain ⟨front, ending, rfl, hending⟩ := ih hrest
      exact ⟨c :: front, ending, rfl, hending⟩
    rcases List.append_eq_append_iff.1 hstart with ⟨mid, hmid, hsplit⟩ | ⟨mid, _, hmid⟩
    · by_cases hnil : mid = []
      · subst hnil
        exact later ⟨[], hsplit⟩
      · -- The word begins within the small form of `c`, which is then one character, and all that
        -- follows is ASCII.
        obtain ⟨a, ha⟩ := List.exists_mem_of_ne_nil mid hnil
        have hunshared : Unshared a := hword a (hsplit ▸ List.mem_append_left _ ha)
        obtain ⟨hc, hone⟩ :=
          eq_toLower_of_unshared hsmall (hmid ▸ List.mem_append_right start ha) hunshared
        have hcs := ascii_of_lowerAfter fun d hd => hword d (hsplit ▸ List.mem_append_right mid hd)
        rw [lowerAfter_ascii _ _ hcs] at hsplit
        refine ⟨[], c :: cs, rfl, List.forall_mem_cons.2 ⟨hc, hcs⟩, ?_⟩
        rcases List.append_eq_singleton_iff.1 (hmid.symm.trans hone) with ⟨_, rfl⟩ | ⟨_, rfl⟩
        · exact hsplit.symm
        · exact absurd rfl hnil
    · exact later ⟨mid, hmid.symm⟩

/-- A small form that is put into its small form again ends in a word of unshared small letters if
and only if it did before. -/
theorem isSuffixOf_lower_lower {word : List Char} (hword : ∀ a ∈ word, Unshared a ∧ a.toLower = a)
    (cs : List Char) :
    word.isSuffixOf (lower (lower cs)) = word.isSuffixOf (lower cs) := by
  rw [Bool.eq_iff_iff, List.isSuffixOf_iff_suffix, List.isSuffixOf_iff_suffix]
  constructor
  · intro h
    obtain ⟨front, ending, hsplit, hascii, rfl⟩ := exists_ending (fun a ha => (hword a ha).1) h
    have hsame : ending.map Char.toLower = ending := by
      refine List.map_congr_left (fun a ha => ?_) |>.trans (List.map_id' ending)
      exact toLower_of_mem_lowerAfter a (hsplit ▸ List.mem_append_right front ha) (hascii a ha)
    exact ⟨front, by rw [hsame]; exact hsplit⟩
  · rintro ⟨front, hfront⟩
    obtain ⟨start, hstart⟩ := Path.exists_lowerAfter_append [] front word
    have hsame : lowerAfter (front.reverse ++ []) word = word := by
      rw [lowerAfter_ascii _ _ fun a ha => (hword a ha).1.1, List.map_congr_left fun a ha =>
        (hword a ha).2, List.map_id']
    rw [← hfront]
    exact ⟨start, by rw [lower, hstart, hsame]⟩

end TwinNode.Text
