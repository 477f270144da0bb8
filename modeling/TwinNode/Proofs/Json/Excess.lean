import Mathlib.Data.List.Basic
import Mathlib.Data.List.Infix
import Mathlib.Data.List.TakeWhile
import Mathlib.Tactic.Common
import TwinNode.Proofs.Json.Calls

/-! A text is refused without a fault of syntax for an integer with more than
`Text.maxDigits` digits, which stand in the text, or for more open lists and objects than
there is room for, each of which has its bracket in the text. Every call of the reader goes
on with an end of its text, so it is enough to look at the call that breaks off. -/

namespace TwinNode.Json

open TwinNode.Text

/-- The text holds a row of digits that is too long for an integer. -/
def HoldsLongRow (cs : List Char) : Prop :=
  ∃ row, row <:+: cs ∧ (∀ c ∈ row, c.isDigit = true) ∧ maxDigits < row.length

theorem HoldsLongRow.of_suffix {cs rest : List Char} (h : HoldsLongRow rest) (hrest : rest <:+ cs) :
    HoldsLongRow cs := by
  obtain ⟨row, hrow, hdigits, hlong⟩ := h
  exact ⟨row, hrow.trans hrest.isInfix, hdigits, hlong⟩

/-- The lists and objects that begin in a text, at most. -/
def openings (cs : List Char) : Nat := cs.countP fun c => c == '[' || c == '\x7b'

/-- What a text has that is too much to be read. -/
inductive Exceeds (room : Nat) (cs : List Char) : Excess → Prop
  | longInteger (h : HoldsLongRow cs) : Exceeds room cs .longInteger
  | deepNesting (h : room < openings cs) : Exceeds room cs .deepNesting

theorem openings_le {cs rest : List Char} (h : rest <:+ cs) : openings rest ≤ openings cs :=
  h.sublist.countP_le

theorem string_ne_excess (opening done cs : List Char) (e : Excess) :
    string opening done cs ≠ .error (.excess e) := by
  have hpoint : ∀ cs, codePoint cs ≠ .error (.excess e) := by
    intro cs h
    unfold codePoint at h
    repeat' split at h
    all_goals cases h
  fun_induction string opening done cs with
  | case4 done rest e he =>
    intro h
    obtain rfl := Except.error.inj h
    exact hpoint rest he
  | case1 | case2 | case3 | case6 | case8 =>
    intro h
    cases h
  | case5 _ _ _ _ _ ih | case7 _ _ _ _ _ _ ih | case9 _ _ _ _ _ _ _ _ ih => exact ih

theorem key_ne_excess (cs : List Char) (e : Excess) : key cs ≠ .error (.excess e) := by
  intro h
  unfold key at h
  split at h
  · split at h
    · next hs =>
      cases h
      exact string_ne_excess _ _ _ e hs
    · split at h <;> cases h
  · cases h

theorem isDigit_of_mem_wholeDigits {c : Char} {cs : List Char} (h : c ∈ wholeDigits cs) :
    c.isDigit = true := by
  unfold wholeDigits at h
  split at h
  · rw [List.mem_singleton.1 h]
    rfl
  · exact List.mem_takeWhile_imp h

theorem maxDigits_lt_of_readDigits? {ds : List Char} (h : readDigits? ds = none) :
    maxDigits < ds.length := by
  unfold readDigits? at h
  split at h
  · cases h
  · next hle => exact Nat.lt_of_not_le hle

theorem exceeds_of_number {cs : List Char} {e : Excess} (h : number cs = .error (.excess e))
    (room : Nat) :
    Exceeds room cs e := by
  rcases number_cases cs with ⟨_, hn⟩ | ⟨hn, unsigned, hunsigned, hlong⟩ | ⟨_, _, hn, _⟩
  · cases hn.symm.trans h
  · cases hn.symm.trans h
    exact .longInteger ⟨wholeDigits unsigned, (wholeDigits_isPrefix unsigned).isInfix.trans
      hunsigned.isInfix, fun _ => isDigit_of_mem_wholeDigits, maxDigits_lt_of_readDigits? hlong⟩
  · cases hn.symm.trans h

theorem exceeds_of_scalar {cs : List Char} {e : Excess} (h : scalar cs = .error (.excess e))
    (room : Nat) :
    Exceeds room cs e := by
  unfold scalar at h
  split at h
  · next inside =>
    cases hs : string ('\x22' :: inside) [] inside with
    | error e' =>
      rw [hs] at h
      exact absurd (hs.trans (congrArg Except.error (Except.error.inj h)))
        (string_ne_excess _ _ _ e)
    | ok read =>
      rw [hs] at h
      cases h
  · split at h
    · cases h
    · exact exceeds_of_number h room

namespace Call

variable {room : Nat}

def stack : Call → List Frame
  | value stack _ => stack
  | finish stack _ _ => stack

theorem openings_cons_of_opens {c : Char} {cs : List Char} (h : Opens (c :: cs)) :
    openings (c :: cs) = openings cs + 1 := by
  refine List.countP_cons_of_pos (p := fun d => d == '[' || d == '\x7b') ?_
  rcases h with h | h <;> rw [Option.some.inj h] <;> rfl

/-- Each list or object that is open has its bracket before the text of the call. -/
theorem Next.openings_le {call next : Call} (h : call.Next room next) :
    next.stack.length + openings next.text ≤ call.stack.length + openings call.text := by
  have hkept := Json.openings_le h.leaves.suffix
  cases h with
  | @list stack inner =>
    have hinner := Json.openings_le (skipBlanks_suffix inner)
    show stack.length + 1 + openings (skipBlanks inner) ≤ stack.length + openings ('[' :: inner)
    rw [openings_cons_of_opens (.inl rfl)]
    omega
  | @object stack inner rest _ _ _ hkey =>
    have hinner : openings rest ≤ openings inner :=
      Json.openings_le ((key_leaves hkey).suffix.trans (skipBlanks_suffix inner))
    show stack.length + 1 + openings rest ≤ stack.length + openings ('\x7b' :: inner)
    rw [openings_cons_of_opens (.inr rfl)]
    omega
  | emptyList | emptyObject | scalar | nextItem | nextMember => exact Nat.add_le_add_left hkept _
  | closeList | closeObject => exact Nat.add_le_add (Nat.le_succ _) hkept

theorem openings_pos {cs : List Char} (h : Opens cs) : 0 < openings cs := by
  cases cs with
  | nil => rcases h with h | h <;> cases h
  | cons c cs => exact openings_cons_of_opens h ▸ Nat.succ_pos _

/-- The text of the call that breaks off is an end of the text that is read, and what is open there
was opened before. -/
theorem exceeds (call : Call) (hstack : call.stack = []) {e : Excess}
    (h : call.result room = .error (.excess e)) :
    Exceeds room call.text e := by
  obtain ⟨last, ⟨hsuffix, hopen⟩, hends⟩ := exists_ending
    (fun last => last.text <:+ call.text ∧ last.stack.length + openings last.text ≤
      openings call.text)
    (fun hkept hnext => ⟨hnext.leaves.suffix.trans hkept.1, hnext.openings_le.trans hkept.2⟩) call
    ⟨List.suffix_rfl, by rw [hstack, List.length_nil, Nat.zero_add]⟩
  rw [h] at hends
  cases hends with
  | @deepNesting stack cs hopens hroom =>
    have hpos := openings_pos hopens
    have hle : stack.length + openings cs ≤ openings call.text := hopen
    exact .deepNesting (by omega)
  | brokenKey h | brokenNextKey h => exact absurd h (key_ne_excess _ e)
  | brokenScalar h =>
    rcases exceeds_of_scalar h room with hrow | hdeep
    · exact .longInteger (hrow.of_suffix hsuffix)
    · exact .deepNesting (hdeep.trans_le (Json.openings_le hsuffix))

end Call

/-- A text that is too much to be read has a row of digits that is too long, or more brackets than
there is room for. -/
theorem exceeds_of_read {room : Nat} {text : List Char} {e : Excess}
    (h : read room text = .error (.excess e)) :
    Exceeds room text e := by
  unfold read at h
  dsimp only at h
  split at h
  · cases h
  · next hv =>
    cases h
    split at hv
    · cases hv
    · have hsuffix := skipBlanks_suffix text
      rcases Call.exceeds (.value [] (skipBlanks text)) rfl hv with hrow | hdeep
      · exact .longInteger (hrow.of_suffix hsuffix)
      · exact .deepNesting (hdeep.trans_le (openings_le hsuffix))
  · cases h

theorem named?_of_digit {c : Char} (hc : c.isDigit = true) (cs : List Char) :
    named? (c :: cs) = none := by
  have hne : ∀ d : Char, d.isDigit = false → c ≠ d := by
    rintro d hd rfl
    rw [hc] at hd
    cases hd
  simp [named?, names, after?, hne 'n' rfl, hne 't' rfl, hne 'f' rfl, hne 'N' rfl,
    hne 'I' rfl, hne '-' rfl]

theorem number_of_longRow {c : Char} {cs : List Char} (hdigits : ∀ d ∈ c :: cs, d.isDigit = true)
    (hzero : c ≠ '0') (hlong : maxDigits < (c :: cs).length) :
    number (c :: cs) = .error (.excess .longInteger) := by
  have hminus : ((c :: cs).head? == some '-') = false := by
    refine beq_false_of_ne fun h => ?_
    rw [List.head?_cons, Option.some.injEq] at h
    have hc := hdigits c List.mem_cons_self
    rw [h] at hc
    cases hc
  have hwhole : wholeDigits (c :: cs) = c :: cs := by
    unfold wholeDigits
    split
    · next he => exact absurd (List.cons.inj he).1 hzero
    · exact List.takeWhile_eq_self_iff.2 hdigits
  have hdigits? : readDigits? (c :: cs) = none := if_neg (Nat.not_le.2 hlong)
  unfold number
  dsimp only
  rw [hminus, if_neg Bool.false_ne_true, hwhole, List.drop_length, hdigits?]
  rfl

theorem read_of_longRow (room : Nat) {c : Char} {cs : List Char}
    (hdigits : ∀ d ∈ c :: cs, d.isDigit = true) (hzero : c ≠ '0')
    (hlong : maxDigits < (c :: cs).length) :
    read room (c :: cs) = .error (.excess .longInteger) := by
  have hc := hdigits c List.mem_cons_self
  have hne : ∀ d : Char, d.isDigit = false → c ≠ d := by
    rintro d hd rfl
    rw [hc] at hd
    cases hd
  have hblank : skipBlanks (c :: cs) = c :: cs := by
    unfold skipBlanks
    rw [List.dropWhile_cons_of_neg]
    simp [hne ' ' rfl, hne '\t' rfl, hne '\n' rfl, hne '\r' rfl]
  have hscalar : scalar (c :: cs) = .error (.excess .longInteger) := by
    unfold scalar
    split
    · next he => exact absurd (List.cons.inj he).1 (hne '\x22' rfl)
    · rw [named?_of_digit hc]
      exact number_of_longRow hdigits hzero hlong
  have hvalue : readValue room [] (c :: cs) = .error (.excess .longInteger) := by
    rw [readValue.eq_def]
    split
    · next he => exact absurd (List.cons.inj he).1 (hne '[' rfl)
    · next he => exact absurd (List.cons.inj he).1 (hne '\x7b' rfl)
    · split
      · next hs => rw [← Except.error.inj (hscalar.symm.trans hs)]
      · next hs => cases hscalar.symm.trans hs
  have hmark : (c :: cs).head? ≠ some '\ufeff' := fun h => hne '\ufeff' rfl (Option.some.inj h)
  unfold read
  rw [if_neg hmark, hblank, hvalue]

end TwinNode.Json
