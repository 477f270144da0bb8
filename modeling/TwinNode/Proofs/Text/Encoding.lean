import TwinNode.Proofs.Text.Utf8

namespace TwinNode.Text

def encode (text : List Char) : List UInt8 := text.flatMap String.utf8EncodeChar

/-- ASCII text with line feeds only. -/
def Unix (text : List Char) : Prop := ∀ c ∈ text, c.toNat < 128 ∧ c ≠ '\r'

theorem Unix.append {text more : List Char} (h : Unix text) (h' : Unix more) :
    Unix (text ++ more) := fun c hc =>
  (List.mem_append.1 hc).elim (h c) (h' c)

theorem Unix.cons {c : Char} {text : List Char} (hc : c.toNat < 128 ∧ c ≠ '\r') (h : Unix text) :
    Unix (c :: text) :=
  List.forall_mem_cons.2 ⟨hc, h⟩

theorem encode_cons {c : Char} (hc : c.toNat < 128) (text : List Char) :
    encode (c :: text) = UInt8.ofNat c.toNat :: encode text := by
  have hle : c.val.toNat ≤ 0x7f := Nat.le_of_lt_succ hc
  unfold encode
  rw [List.flatMap_cons, String.utf8EncodeChar, if_pos hle]
  rfl

theorem length_encode {text : List Char} (h : Unix text) : (encode text).length = text.length := by
  induction text with
  | nil => rfl
  | cons c text ih =>
    obtain ⟨⟨hc, _⟩, htext⟩ := List.forall_mem_cons.1 h
    rw [encode_cons hc, List.length_cons, List.length_cons, ih htext]

/-- A text is read back from its bytes. -/
theorem decodeFrom_encode (text : List Char) : decodeFrom .start (encode text) = text.map some := by
  induction text with
  | nil => rfl
  | cons c text ih =>
    have hcons : encode (c :: text) = String.utf8EncodeChar c ++ encode text := List.flatMap_cons
    rw [hcons, decodeFrom_encodeChar, ih, List.map_cons]

/-- Bytes that are read without a fault are those of the text that is read, with what was pending
before them. -/
theorem encode_of_decodeFrom {bytes done : List UInt8} {state : Utf8State}
    {text : List Char} (h : state.Pending done) (htext : decodeFrom state bytes = text.map some) :
    encode text = done ++ bytes := by
  -- `done` are the bytes of the character that is pending in `state`, so that they and what follows
  -- make up the text.
  induction bytes generalizing done state text with
  | nil =>
    cases state with
    | start =>
      obtain rfl : done = [] := h
      obtain rfl : text = [] := List.map_eq_nil_iff.1 htext.symm
      rfl
    | inside => cases text <;> simp [decodeFrom] at htext
  | cons b bs ih =>
    rw [decodeFrom] at htext
    have hstep : (∃ c, nextByte b state = ([some c], .start) ∧
      String.utf8EncodeChar c = done ++ [b]) ∨
        ((nextByte b state).1 = [] ∧ (nextByte b state).2.Pending (done ++ [b])) := by
      cases state with
      | start =>
        obtain rfl : done = [] := h
        rcases firstByte_cases b with hfirst | hfirst
        · rw [nextByte, hfirst] at htext
          cases text <;> simp at htext
        · exact hfirst
      | inside missing least greatest value =>
        by_cases hb : least ≤ b ∧ b ≤ greatest
        · exact nextByte_inside h hb
        · rw [nextByte, if_neg hb] at htext
          cases text <;> simp at htext
    rcases hstep with ⟨c, hchar, hencode⟩ | ⟨hout, hpending⟩
    · rw [hchar] at htext
      obtain ⟨text, rfl⟩ : ∃ text', text = c :: text' := by
        cases text <;> simp_all
      have hstart : Utf8State.start.Pending [] := rfl
      have hrest := ih hstart (List.cons.inj htext).2
      have hcons : encode (c :: text) = String.utf8EncodeChar c ++ encode text := List.flatMap_cons
      rw [hcons, hencode, hrest, List.append_assoc]
      rfl
    · rw [hout, List.nil_append] at htext
      rw [ih hpending htext, List.append_assoc]
      rfl

theorem mapM_id_eq_some_iff {ds : List (Option α)} {as : List α} : ds.mapM id = some as ↔
    ds = as.map some := by
  induction ds generalizing as with
  | nil => cases as <;> simp [pure]
  | cons d ds ih =>
    rw [List.mapM_cons]
    cases d with
    | none => cases as <;> simp
    | some a => cases as <;> cases h : ds.mapM id <;> simp_all

/-- Bytes are valid exactly if they are those of some text, and then they are read as that text. -/
theorem decodeStrict?_eq_some_iff {bytes : List UInt8} {text : List Char} :
    decodeStrict? bytes = some text ↔ encode text = bytes := by
  rw [decodeStrict?, mapM_id_eq_some_iff]
  have hstart : Utf8State.start.Pending [] := rfl
  refine ⟨encode_of_decodeFrom hstart, ?_⟩
  rintro rfl
  exact decodeFrom_encode text

theorem dropByteOrderMark_encode {text : List Char} (h : Unix text) :
    dropByteOrderMark (encode text) = encode text := by
  cases text with
  | nil => rfl
  | cons c text =>
    obtain ⟨⟨hc, _⟩, _⟩ := List.forall_mem_cons.1 h
    rw [encode_cons hc]
    unfold dropByteOrderMark
    refine if_neg fun hmark => ?_
    rw [List.length_cons, List.take_succ_cons, byteOrderMark, List.take_succ_cons] at hmark
    have hbyte := congrArg UInt8.toNat (List.cons.inj hmark).1
    rw [toNat_ofNat_ascii hc] at hbyte
    have : (0xEF : UInt8).toNat = 239 := rfl
    omega

theorem normalizeLineBreaks_unix {text : List Char} (h : Unix text) :
    normalizeLineBreaks text = text := by
  induction text with
  | nil => rfl
  | cons c text ih =>
    obtain ⟨⟨_, hc⟩, htext⟩ := List.forall_mem_cons.1 h
    have hrest := ih htext
    unfold normalizeLineBreaks
    split
    · next he => cases he
    · next he => exact absurd (List.cons.inj he).1 hc
    · next he =>
      obtain ⟨rfl, rfl⟩ := List.cons.inj he
      rw [if_neg hc, hrest]

theorem readText_encode {text : List Char} (h : Unix text) : readText (encode text) = text := by
  have hget : (text.map some).map (·.getD '\ufffd') = text := by
    rw [List.map_map]
    exact List.map_id'' (fun _ => rfl) text
  unfold readText decodeRepaired
  rw [dropByteOrderMark_encode h, decodeFrom_encode, hget, normalizeLineBreaks_unix h]

/-- Every byte ends at most one character, and what is left unfinished is replaced by one. -/
theorem length_decodeFrom_le (state : Utf8State) (bytes : List UInt8) :
    (decodeFrom state bytes).length ≤ bytes.length + if state = .start then 0 else 1 := by
  have hfirst : ∀ b, (firstByte b).1.length + (if (firstByte b).2 = .start then 0 else 1) ≤ 1 := by
    intro b
    unfold firstByte
    dsimp only
    repeat' split
    all_goals simp_all
  induction bytes generalizing state with
  | nil => cases state <;> simp [decodeFrom]
  | cons b bs ih =>
    -- One byte pays for what it ends and for what is pending after it, together with what was
    -- pending before.
    have hstep : (nextByte b state).1.length + (if (nextByte b state).2 = .start then 0 else 1) ≤
        1 + if state = .start then 0 else 1 := by
      cases state with
      | start => exact hfirst b
      | inside missing least greatest value =>
        have hb := hfirst b
        unfold nextByte
        dsimp only
        split
        · split <;> simp
        · simpa [Nat.add_right_comm] using Nat.succ_le_succ hb
    have hrest := ih (nextByte b state).2
    rw [decodeFrom, List.length_append, List.length_cons]
    omega

theorem length_normalizeLineBreaks_le (cs : List Char) :
    (normalizeLineBreaks cs).length ≤ cs.length := by
  fun_induction normalizeLineBreaks cs with
  | case1 => exact Nat.le_refl 0
  | case2 cs ih => exact Nat.succ_le_succ (Nat.le_succ_of_le ih)
  | case3 c cs _ ih => exact Nat.succ_le_succ ih

/-- The text of a file has no more characters than the file has bytes. -/
theorem length_readText_le (bytes : List UInt8) : (readText bytes).length ≤ bytes.length := by
  have hdrop : (dropByteOrderMark bytes).length ≤ bytes.length := by
    unfold dropByteOrderMark
    split
    · exact (List.drop_sublist 3 bytes).length_le
    · exact Nat.le_refl _
  have hdecode := length_decodeFrom_le .start (dropByteOrderMark bytes)
  rw [if_pos rfl, Nat.add_zero] at hdecode
  unfold readText decodeRepaired
  refine Nat.le_trans (length_normalizeLineBreaks_le _) ?_
  rw [List.length_map]
  exact Nat.le_trans hdecode hdrop

end TwinNode.Text
