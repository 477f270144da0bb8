import Mathlib.Algebra.Order.Ring.Nat
import Mathlib.Tactic.Common
import TwinNode.Text.Half
import TwinNode.Text.Utf8

/-! A character is encoded as one to four bytes, and only the first of them tells how many.
Between two bytes the reader keeps what it needs to tell which numbers can still come out of
it. `Utf8State.Pending` says what that is: each of these numbers is that of a character, and
the bytes read so far are the first ones of its encoding. -/

namespace TwinNode.Text

/-- The last bytes of the encoding of the character with a number. -/
def lastBytes : ℕ → ℕ → List UInt8
  | 0, _ => []
  | m + 1, n => UInt8.ofNat (n / 64 ^ m % 64 + 0x80) :: lastBytes m n

theorem toNat_lt (c : Char) : c.toNat < 0x110000 := by
  rcases c.valid with h | h
  · exact Nat.lt_trans h (by decide)
  · exact h.2

theorem encodeChar_two {c : Char} (h : 0x80 ≤ c.toNat) (h' : c.toNat < 0x800) :
    String.utf8EncodeChar c = UInt8.ofNat (c.toNat / 64 + 0xC0) :: lastBytes 1 c.toNat := by
  have hlead : c.toNat / 64 % 32 = c.toNat / 64 := Nat.mod_eq_of_lt (by omega)
  unfold String.utf8EncodeChar
  rw [Char.toNat_val, if_neg (by omega), if_pos (by omega), hlead]
  simp [lastBytes]

theorem encodeChar_three {c : Char} (h : 0x800 ≤ c.toNat) (h' : c.toNat < 0x10000) :
    String.utf8EncodeChar c = UInt8.ofNat (c.toNat / 64 ^ 2 + 0xE0) :: lastBytes 2 c.toNat := by
  have hlead : c.toNat / 4096 % 16 = c.toNat / 4096 := Nat.mod_eq_of_lt (by omega)
  unfold String.utf8EncodeChar
  rw [Char.toNat_val, if_neg (by omega), if_neg (by omega), if_pos (by omega), hlead]
  simp [lastBytes]

theorem encodeChar_four {c : Char} (h : 0x10000 ≤ c.toNat) :
    String.utf8EncodeChar c = UInt8.ofNat (c.toNat / 64 ^ 3 + 0xF0) :: lastBytes 3 c.toNat := by
  have hlt := toNat_lt c
  have hlead : c.toNat / 262144 % 8 = c.toNat / 262144 := Nat.mod_eq_of_lt (by omega)
  unfold String.utf8EncodeChar
  rw [Char.toNat_val, if_neg (by omega), if_neg (by omega), if_neg (by omega), hlead]
  simp [lastBytes]

theorem toNat_nextByte (m n : ℕ) :
    (UInt8.ofNat (n / 64 ^ m % 64 + 0x80)).toNat = n / 64 ^ m % 64 + 0x80 :=
  UInt8.toNat_ofNat_of_lt'
    (Nat.lt_of_lt_of_le (Nat.add_lt_add_right (Nat.mod_lt _ (by decide)) _) (by decide))

theorem div_pow_succ (m n : ℕ) : n / 64 ^ (m + 1) = n / 64 ^ m / 64 := by
  rw [Nat.pow_succ, Nat.div_div_eq_div_mul]

/-- The last bytes of a character complete it, if the first of them may stand there. -/
theorem decodeFrom_lastBytes (m n : ℕ) {least greatest : UInt8}
    (hleast : least.toNat ≤ n / 64 ^ m % 64 + 0x80)
    (hgreatest : n / 64 ^ m % 64 + 0x80 ≤ greatest.toNat) (bs : List UInt8) :
    decodeFrom (.inside (m + 1) least greatest (n / 64 ^ (m + 1))) (lastBytes (m + 1) n ++ bs) =
      some (Char.ofNat n) :: decodeFrom .start bs := by
  -- Only the first byte has bounds of its own; the later ones may be any that continue a character.
  induction m generalizing least greatest with
  | zero =>
    have hbounds : least ≤ UInt8.ofNat (n / 64 ^ 0 % 64 + 0x80) ∧
        UInt8.ofNat (n / 64 ^ 0 % 64 + 0x80) ≤ greatest := by
      rw [UInt8.le_iff_toNat_le, UInt8.le_iff_toNat_le, toNat_nextByte]
      exact ⟨hleast, hgreatest⟩
    have hvalue : n / 64 ^ (0 + 1) * 0x40 + (n / 64 ^ 0 % 64 + 0x80 - 0x80) = n := by
      rw [div_pow_succ, Nat.pow_zero, Nat.div_one]
      omega
    rw [lastBytes, List.cons_append, decodeFrom, nextByte, if_pos hbounds, toNat_nextByte, hvalue]
    rfl
  | succ m ih =>
    have hbounds : least ≤ UInt8.ofNat (n / 64 ^ (m + 1) % 64 + 0x80) ∧
        UInt8.ofNat (n / 64 ^ (m + 1) % 64 + 0x80) ≤ greatest := by
      rw [UInt8.le_iff_toNat_le, UInt8.le_iff_toNat_le, toNat_nextByte]
      exact ⟨hleast, hgreatest⟩
    have hvalue : n / 64 ^ (m + 1 + 1) * 0x40 + (n / 64 ^ (m + 1) % 64 + 0x80 - 0x80) =
        n / 64 ^ (m + 1) := by
      rw [div_pow_succ (m + 1)]
      omega
    have hmore : ¬m + 1 + 1 ≤ 1 := by omega
    have hnext := @ih 0x80 0xBF (Nat.le_add_left _ _)
      (by show n / 64 ^ m % 64 + 0x80 ≤ 0xBF; omega)
    rw [lastBytes, List.cons_append, decodeFrom, nextByte, if_pos hbounds]
    dsimp only
    rw [if_neg hmore, toNat_nextByte, hvalue]
    exact hnext

theorem firstByte_two :
    ∀ v < 32, 2 ≤ v → firstByte (UInt8.ofNat (v + 0xC0)) = ([], .inside 1 0x80 0xBF v) := by decide

/-- After the first byte of a character of three bytes, the second one is neither that of a shorter
encoding nor that of half a character. -/
theorem firstByte_three : ∀ v < 16, firstByte (UInt8.ofNat (v + 0xE0)) =
    ([], .inside 2 (if v = 0 then 0xA0 else 0x80) (if v = 0xD then 0x9F else 0xBF) v) := by decide

/-- After the first byte of a character of four bytes, the second one is neither that of a shorter
encoding nor that of a number beyond all characters. -/
theorem firstByte_four : ∀ v < 5, firstByte (UInt8.ofNat (v + 0xF0)) =
    ([], .inside 3 (if v = 0 then 0x90 else 0x80) (if v = 4 then 0x8F else 0xBF) v) := by decide

/-- The first byte of a character of several bytes says how many follow, and the second one may
stand there. -/
theorem firstByte_encodeChar {c : Char} (h : 0x80 ≤ c.toNat) : ∃ lead m least greatest,
    String.utf8EncodeChar c = lead :: lastBytes (m + 1) c.toNat ∧
      firstByte lead = ([], .inside (m + 1) least greatest (c.toNat / 64 ^ (m + 1))) ∧
      least.toNat ≤ c.toNat / 64 ^ m % 64 + 0x80 ∧
        c.toNat / 64 ^ m % 64 + 0x80 ≤ greatest.toNat := by
  have hlt := toNat_lt c
  have hvalid : c.toNat < 0xD800 ∨ 0xDFFF < c.toNat := c.valid.imp id And.left
  by_cases htwo : c.toNat < 0x800
  · refine ⟨_, 0, _, _, encodeChar_two h htwo, firstByte_two _ (by omega) (by omega), ?_, ?_⟩
    · show 0x80 ≤ _
      omega
    · show _ ≤ 0xBF
      omega
  by_cases hthree : c.toNat < 0x10000
  · refine ⟨_, 1, _, _, encodeChar_three (by omega) hthree, firstByte_three _ (by omega), ?_, ?_⟩
    · rw [apply_ite UInt8.toNat]
      show (if _ then 0xA0 else 0x80) ≤ _
      split <;> omega
    · rw [apply_ite UInt8.toNat]
      show _ ≤ if _ then 0x9F else 0xBF
      split <;> omega
  · refine ⟨_, 2, _, _, encodeChar_four (by omega), firstByte_four _ (by omega), ?_, ?_⟩
    · rw [apply_ite UInt8.toNat]
      show (if _ then 0x90 else 0x80) ≤ _
      split <;> omega
    · rw [apply_ite UInt8.toNat]
      show _ ≤ if _ then 0x8F else 0xBF
      split <;> omega

theorem toNat_ofNat_ascii {c : Char} (hc : c.toNat < 128) : (UInt8.ofNat c.toNat).toNat = c.toNat :=
  UInt8.toNat_ofNat_of_lt' (Nat.lt_trans hc (by decide))

theorem decodeFrom_encodeChar (c : Char) (bs : List UInt8) :
    decodeFrom .start (String.utf8EncodeChar c ++ bs) = some c :: decodeFrom .start bs := by
  by_cases h : c.toNat < 0x80
  · have hbyte : nextByte (UInt8.ofNat c.toNat) .start = ([some c], .start) := by
      unfold nextByte firstByte
      dsimp only
      rw [toNat_ofNat_ascii h, if_pos h, Char.ofNat_toNat]
    unfold String.utf8EncodeChar
    rw [Char.toNat_val, if_pos (by omega), List.singleton_append, decodeFrom, hbyte]
    rfl
  · obtain ⟨lead, m, least, greatest, hencode, hfirst, hleast, hgreatest⟩ :=
      firstByte_encodeChar (Nat.le_of_not_lt h)
    rw [hencode, List.cons_append, decodeFrom, nextByte, hfirst, List.nil_append,
      decodeFrom_lastBytes m c.toNat hleast hgreatest, Char.ofNat_toNat]

/-- What has been read of a character: every number that goes on with a byte that fits is that of a
character, and its encoding begins with what has been read. -/
def Utf8State.Pending (done : List UInt8) : Utf8State → Prop
  | .start => done = []
  | .inside missing least greatest value =>
    ∃ m, missing = m + 1 ∧ 0x80 ≤ least.toNat ∧ greatest.toNat ≤ 0xBF ∧
      ∀ n, n / 64 ^ (m + 1) = value → least.toNat ≤ n / 64 ^ m % 64 + 0x80 →
        n / 64 ^ m % 64 + 0x80 ≤ greatest.toNat →
        n.isValidChar ∧ String.utf8EncodeChar (Char.ofNat n) = done ++ lastBytes (m + 1) n

theorem pending_two {v : ℕ} (h : v < 32) (h' : 2 ≤ v) :
    (firstByte (UInt8.ofNat (v + 0xC0))).2.Pending [UInt8.ofNat (v + 0xC0)] := by
  rw [firstByte_two v h h']
  refine ⟨0, rfl, by decide, by decide, fun n hn _ _ => ?_⟩
  have hvalid : n.isValidChar := .inl (by omega)
  have hnat := toNat_ofNat_valid hvalid
  have hlead : n / 64 = v := by omega
  refine ⟨hvalid, ?_⟩
  rw [encodeChar_two (by omega) (by omega), hnat, hlead]
  rfl

theorem pending_three {v : ℕ} (h : v < 16) :
    (firstByte (UInt8.ofNat (v + 0xE0))).2.Pending [UInt8.ofNat (v + 0xE0)] := by
  rw [firstByte_three v h]
  refine ⟨1, rfl, ?_, ?_, fun n hn hleast hgreatest => ?_⟩
  · split <;> decide
  · split <;> decide
  · have hrange : 0x800 ≤ n ∧ n < 0x10000 ∧ (n < 0xD800 ∨ 0xDFFF < n) := by
      rw [apply_ite UInt8.toNat] at hleast hgreatest
      change (if _ then 0xA0 else 0x80) ≤ _ at hleast
      change _ ≤ (if _ then 0x9F else 0xBF) at hgreatest
      split at hleast <;> split at hgreatest <;> omega
    have hvalid : n.isValidChar := hrange.2.2.imp id fun h => ⟨h, by omega⟩
    have hnat := toNat_ofNat_valid hvalid
    refine ⟨hvalid, ?_⟩
    rw [encodeChar_three (by omega) (by omega), hnat, hn]
    rfl

theorem pending_four {v : ℕ} (h : v < 5) :
    (firstByte (UInt8.ofNat (v + 0xF0))).2.Pending [UInt8.ofNat (v + 0xF0)] := by
  rw [firstByte_four v h]
  refine ⟨2, rfl, ?_, ?_, fun n hn hleast hgreatest => ?_⟩
  · split <;> decide
  · split <;> decide
  · have hrange : 0x10000 ≤ n ∧ n < 0x110000 := by
      rw [apply_ite UInt8.toNat] at hleast hgreatest
      change (if _ then 0x90 else 0x80) ≤ _ at hleast
      change _ ≤ (if _ then 0x8F else 0xBF) at hgreatest
      split at hleast <;> split at hgreatest <;> omega
    have hvalid : n.isValidChar := .inr ⟨by omega, hrange.2⟩
    have hnat := toNat_ofNat_valid hvalid
    refine ⟨hvalid, ?_⟩
    rw [encodeChar_four (by omega), hnat, hn]
    rfl

/-- A first byte is invalid, or it is a character by itself, or it begins one. -/
theorem firstByte_cases (b : UInt8) : firstByte b = ([none], .start) ∨
    (∃ c, firstByte b = ([some c], .start) ∧ String.utf8EncodeChar c = [b]) ∨
      ((firstByte b).1 = [] ∧ (firstByte b).2.Pending [b]) := by
  have hb : UInt8.ofNat b.toNat = b := UInt8.ofNat_toNat
  by_cases hone : b.toNat < 0x80
  · have hvalid : b.toNat.isValidChar := .inl (by omega)
    refine .inr (.inl ⟨Char.ofNat b.toNat, if_pos hone, ?_⟩)
    unfold String.utf8EncodeChar
    rw [Char.toNat_val, toNat_ofNat_valid hvalid, if_pos (by omega), hb]
  by_cases hlow : b.toNat < 0xC2
  · left
    unfold firstByte
    dsimp only
    rw [if_neg hone, if_pos hlow]
  by_cases htwo : b.toNat < 0xE0
  · obtain ⟨v, hv⟩ := Nat.exists_eq_add_of_le' (show 0xC0 ≤ b.toNat by omega)
    rw [← hb, hv]
    refine .inr (.inr ⟨?_, pending_two (by omega) (by omega)⟩)
    rw [firstByte_two v (by omega) (by omega)]
  by_cases hthree : b.toNat < 0xF0
  · obtain ⟨v, hv⟩ := Nat.exists_eq_add_of_le' (show 0xE0 ≤ b.toNat by omega)
    rw [← hb, hv]
    refine .inr (.inr ⟨?_, pending_three (by omega)⟩)
    rw [firstByte_three v (by omega)]
  by_cases hfour : b.toNat < 0xF5
  · obtain ⟨v, hv⟩ := Nat.exists_eq_add_of_le' (show 0xF0 ≤ b.toNat by omega)
    rw [← hb, hv]
    refine .inr (.inr ⟨?_, pending_four (by omega)⟩)
    rw [firstByte_four v (by omega)]
  · left
    unfold firstByte
    dsimp only
    rw [if_neg hone, if_neg hlow, if_neg htwo, if_neg (by omega), if_neg (by omega),
      if_neg hthree, if_neg (by omega), if_neg (by omega), if_neg (by omega)]

/-- A byte that goes on with a character ends it, or leaves it pending. -/
theorem nextByte_inside {b least greatest : UInt8} {missing value : ℕ} {done : List UInt8}
    (h : (Utf8State.inside missing least greatest value).Pending done)
    (hb : least ≤ b ∧ b ≤ greatest) :
    (∃ c, nextByte b (.inside missing least greatest value) = ([some c], .start) ∧
        String.utf8EncodeChar c = done ++ [b]) ∨
      ((nextByte b (.inside missing least greatest value)).1 = [] ∧
        (nextByte b (.inside missing least greatest value)).2.Pending (done ++ [b])) := by
  obtain ⟨m, rfl, hleast, hgreatest, hencode⟩ := h
  have hb' : least.toNat ≤ b.toNat ∧ b.toNat ≤ greatest.toNat := hb
  have hsub : b.toNat - 0x80 < 64 := by omega
  have hnext : UInt8.ofNat (b.toNat - 0x80 + 0x80) = b := by
    rw [Nat.sub_add_cancel (by omega)]
    exact UInt8.ofNat_toNat
  unfold nextByte
  dsimp only
  rw [if_pos hb]
  cases m with
  | zero =>
    obtain ⟨_, hchar⟩ := hencode (value * 0x40 + (b.toNat - 0x80)) (by omega) (by omega) (by omega)
    have hmod : (value * 0x40 + (b.toNat - 0x80)) / 64 ^ 0 % 64 = b.toNat - 0x80 := by omega
    refine .inl ⟨_, if_pos (by omega), ?_⟩
    rw [hchar, lastBytes, hmod, hnext]
    rfl
  | succ m =>
    rw [if_neg (by omega)]
    refine .inr ⟨rfl, m, rfl, by decide, by decide, fun n hn _ _ => ?_⟩
    have hmod : n / 64 ^ (m + 1) % 64 = b.toNat - 0x80 := by omega
    have hvalue : n / 64 ^ (m + 1 + 1) = value := by
      rw [div_pow_succ]
      omega
    obtain ⟨hvalid, hchar⟩ := hencode n hvalue (by omega) (by omega)
    refine ⟨hvalid, ?_⟩
    rw [hchar, lastBytes, hmod, hnext, List.append_assoc]
    rfl

end TwinNode.Text
