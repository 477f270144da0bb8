import TwinNode.Path.Reference
import TwinNode.Proofs.Text.PlainName

namespace TwinNode.Path

open TwinNode.Text

/-- A name that begins with a plain character and goes on with such characters and dots. -/
structure FileName (name : String) : Prop where
  head : name.toList.head?.any isPlain = true
  chars : ∀ c ∈ name.toList, isPlain c = true ∨ c = '.'

theorem FileName.of_plain {name : String} (h : PlainName name) : FileName name := by
  obtain ⟨c, cs, hcs⟩ := List.exists_cons_of_ne_nil h.toList_ne_nil
  refine ⟨?_, fun d hd => .inl (h.plain d hd)⟩
  rw [hcs, List.head?_cons, Option.any_some]
  exact h.plain c (hcs ▸ List.mem_cons_self)

theorem FileName.append {stem suffix : String} (h : PlainName stem)
    (hs : ∀ c ∈ suffix.toList, isPlain c = true ∨ c = '.') : FileName (stem ++ suffix) := by
  have hstem := FileName.of_plain h
  constructor
  · obtain ⟨c, cs, hcs⟩ := List.exists_cons_of_ne_nil h.toList_ne_nil
    have hhead := hstem.head
    rw [hcs] at hhead
    rw [String.toList_append, hcs]
    exact hhead
  · intro c hc
    rw [String.toList_append, List.mem_append] at hc
    exact hc.elim (hstem.chars c) (hs c)

section FileName

variable {name : String} (h : FileName name)
include h

theorem FileName.not_mem {d : Char} (hd : isPlain d = false) (hdot : d ≠ '.') :
    d ∉ name.toList := by
  intro hm
  rcases h.chars d hm with hp | rfl
  · rw [hp] at hd
    cases hd
  · exact hdot rfl

theorem FileName.head_ne {d : Char} (hd : isPlain d = false) : name.toList.head? ≠ some d := by
  intro hm
  have hp := h.head
  rw [hm, Option.any_some, hd] at hp
  cases hp

theorem FileName.not_dots : name.toList ≠ [] ∧ name.toList ≠ ['.'] ∧ name.toList ≠ ['.', '.'] := by
  have hp := h.head
  refine ⟨?_, ?_, ?_⟩ <;> intro hn <;> rw [hn] at hp <;> cases hp

end FileName

theorem splitSlashes_of_not_mem {cs : List Char} (h : '/' ∉ cs) : splitSlashes cs = [cs] := by
  induction cs with
  | nil => rfl
  | cons c cs ih =>
    rw [List.mem_cons, not_or] at h
    rw [splitSlashes, if_neg (Ne.symm h.1), ih h.2]

theorem splitSlashes_append {segment : List Char} (h : '/' ∉ segment) (rest : List Char) :
    splitSlashes (segment ++ '/' :: rest) = segment :: splitSlashes rest := by
  induction segment with
  | nil => rw [List.nil_append, splitSlashes, if_pos rfl]
  | cons c segment ih =>
    rw [List.mem_cons, not_or] at h
    rw [List.cons_append, splitSlashes, if_neg (Ne.symm h.1), ih h.2]

theorem splitSlashes_intercalate {parts : List (List Char)} (hne : parts ≠ [])
    (h : ∀ s ∈ parts, '/' ∉ s) :
    splitSlashes (List.intercalate ['/'] parts) = parts := by
  induction parts with
  | nil => exact absurd rfl hne
  | cons s parts ih =>
    cases parts with
    | nil => simpa [List.intercalate] using splitSlashes_of_not_mem (h s List.mem_cons_self)
    | cons t parts =>
      have hrest := ih (List.cons_ne_nil t parts) fun r hr => h r (List.mem_cons_of_mem s hr)
      rw [List.intercalate_cons_cons, List.append_assoc, List.singleton_append,
        splitSlashes_append (h s List.mem_cons_self), hrest]

theorem toList_join (names : List String) :
    (join names).toList = List.intercalate ['/'] (names.map String.toList) := by
  have hslash : "/".toList = ['/'] := rfl
  unfold join
  rw [String.toList_intercalate, hslash]

theorem segments_join {names : List String} (hne : names ≠ []) (h : ∀ n ∈ names, '/' ∉ n.toList) :
    segments (join names) = names := by
  have hparts : ∀ s ∈ names.map String.toList, '/' ∉ s := by
    intro s hs
    obtain ⟨n, hn, rfl⟩ := List.mem_map.1 hs
    exact h n hn
  unfold segments
  rw [toList_join, splitSlashes_intercalate (by simpa using hne) hparts, List.map_map]
  simp

theorem join_append {names more : List String} (hne : names ≠ []) (hmore : more ≠ []) :
    join (names ++ more) = join names ++ "/" ++ join more :=
  String.intercalate_append_of_ne_nil hne hmore

theorem join_singleton (name : String) : join [name] = name := String.intercalate_singleton

theorem mem_join {names : List String} {c : Char} (h : c ∈ (join names).toList) :
    c = '/' ∨ ∃ n ∈ names, c ∈ n.toList := by
  induction names with
  | nil => simp [join] at h
  | cons n names ih =>
    cases names with
    | nil =>
      rw [join_singleton] at h
      exact .inr ⟨n, List.mem_cons_self, h⟩
    | cons m names =>
      have hjoin : join (n :: m :: names) = n ++ "/" ++ join (m :: names) := by
        rw [← join_singleton n]
        exact join_append (List.cons_ne_nil n []) (List.cons_ne_nil m names)
      rw [hjoin, String.toList_append, String.toList_append, List.mem_append, List.mem_append] at h
      rcases h with (h | h) | h
      · exact .inr ⟨n, List.mem_cons_self, h⟩
      · exact .inl (by simpa using h)
      · rcases ih h with hc | ⟨k, hk, hc⟩
        · exact .inl hc
        · exact .inr ⟨k, List.mem_cons_of_mem n hk, hc⟩

theorem reverse_last (parent last : String) :
    (parent ++ "/" ++ last).toList.reverse = last.toList.reverse ++ '/' ::
      parent.toList.reverse := by
  simp

theorem slashless_reverse {last : String} (h : '/' ∉ last.toList) :
    ∀ c ∈ last.toList.reverse, (c != '/') = true := by
  intro c hc
  rw [bne_iff_ne]
  rintro rfl
  exact h (List.mem_reverse.1 hc)

theorem directory_append {last : String} (h : '/' ∉ last.toList) (parent : String) :
    directory (parent ++ "/" ++ last) = parent := by
  unfold directory directoryChars
  rw [reverse_last, List.dropWhile_append_of_pos (slashless_reverse h)]
  simp

theorem name_append {last : String} (h : '/' ∉ last.toList) (parent : String) :
    name (parent ++ "/" ++ last) = last := by
  unfold name nameChars
  rw [reverse_last, List.takeWhile_append_of_pos (slashless_reverse h)]
  simp

theorem map_slashes_eq_self {cs : List Char} (h : '\\' ∉ cs) :
    cs.map (fun c => if c = '\\' then '/' else c) = cs := by
  have hid : ∀ c ∈ cs, (if c = '\\' then '/' else c) = c := by
    intro c hc
    refine if_neg ?_
    rintro rfl
    exact h hc
  rw [List.map_congr_left hid, List.map_id']

theorem normalize_eq_self {path : String} (h : '\\' ∉ path.toList) : normalize path = path := by
  unfold normalize
  rw [map_slashes_eq_self h, String.ofList_toList]

theorem normalize_join {names : List String} (h : ∀ n ∈ names, '\\' ∉ n.toList) :
    normalize (join names) = join names := by
  refine normalize_eq_self fun hin => ?_
  rcases mem_join hin with hslash | ⟨n, hn, hc⟩
  · exact absurd hslash (by decide)
  · exact h n hn hc

theorem pushSegment_of_not_dots {s : List Char} (h : s ≠ [] ∧ s ≠ ['.'] ∧ s ≠ ['.', '.'])
    (absolute : Bool) (done : List (List Char)) : pushSegment absolute done s = s :: done := by
  obtain ⟨hempty, hdot, hdots⟩ := h
  unfold pushSegment
  rw [if_neg (by simp [hempty, hdot]), if_neg hdots]

theorem foldl_pushSegment {parts done : List (List Char)} {absolute : Bool}
    (h : ∀ s ∈ parts, s ≠ [] ∧ s ≠ ['.'] ∧ s ≠ ['.', '.']) :
    parts.foldl (pushSegment absolute) done = parts.reverse ++ done := by
  induction parts generalizing done with
  | nil => rfl
  | cons s parts ih =>
    obtain ⟨hs, hrest⟩ := List.forall_mem_cons.1 h
    rw [List.foldl_cons, pushSegment_of_not_dots hs, ih hrest, List.reverse_cons, List.append_assoc]
    rfl

theorem head_join {names : List String} (h : ∀ n ∈ names, n.toList ≠ [] ∧ '/' ∉ n.toList) :
    (join names).toList.head? ≠ some '/' := by
  cases names with
  | nil => simp [join]
  | cons n names =>
    obtain ⟨hn, hslash⟩ := h n List.mem_cons_self
    obtain ⟨c, cs, hcs⟩ := List.exists_cons_of_ne_nil hn
    have hc : c ≠ '/' := fun heq => hslash (by rw [hcs, heq]; exact List.mem_cons_self)
    rw [toList_join, List.map_cons, hcs]
    cases names with
    | nil => simpa [List.intercalate] using hc
    | cons m names => simpa [List.intercalate_cons_cons] using hc

theorem takeWhile_slash_join {names : List String}
    (h : ∀ n ∈ names, n.toList ≠ [] ∧ '/' ∉ n.toList) :
    (join names).toList.takeWhile (· == '/') = [] := by
  have hhead := head_join h
  cases hcs : (join names).toList with
  | nil => rfl
  | cons c cs =>
    rw [hcs, List.head?_cons] at hhead
    have hc : (c == '/') = false := by
      rw [beq_eq_false_iff_ne]
      exact fun he => hhead (congrArg some he)
    rw [List.takeWhile_cons, hc]
    rfl

section Reference

variable {names : List String} (hne : names ≠ []) (h : ∀ n ∈ names, FileName n)
include hne h

omit hne in
theorem join_lacks {d : Char} (hd : isPlain d = false) (hdot : d ≠ '.') (hslash : d ≠ '/') :
    d ∉ (join names).toList := by
  intro hm
  rcases mem_join hm with rfl | ⟨n, hn, hc⟩
  · exact hslash rfl
  · exact (h n hn).not_mem hd hdot hc

theorem simplify_join : simplify (join names).toList = (join names).toList := by
  have hleading : leadingSlashes (join names).toList = [] := by
    have hnone := takeWhile_slash_join fun n hn =>
      ⟨(h n hn).not_dots.1, (h n hn).not_mem (by decide) (by decide)⟩
    unfold leadingSlashes
    rw [hnone]
    rfl
  have hslash : ∀ s ∈ names.map String.toList, '/' ∉ s := by
    intro s hs
    obtain ⟨n, hn, rfl⟩ := List.mem_map.1 hs
    exact (h n hn).not_mem (by decide) (by decide)
  have hdots : ∀ s ∈ names.map String.toList, s ≠ [] ∧ s ≠ ['.'] ∧ s ≠ ['.', '.'] := by
    intro s hs
    obtain ⟨n, hn, rfl⟩ := List.mem_map.1 hs
    exact (h n hn).not_dots
  have hsplit : splitSlashes (join names).toList = names.map String.toList := by
    rw [toList_join, splitSlashes_intercalate (by simpa using hne) hslash]
  unfold simplify
  dsimp only
  rw [hleading, hsplit, foldl_pushSegment hdots, List.nil_append, List.append_nil,
    List.reverse_reverse, ← toList_join]

/-- A reference that is the path of names means this path. -/
theorem normalizeReference_join : normalizeReference (join names) = join names := by
  have hblank : ∀ c ∈ (join names).toList, isBlank c = false := by
    intro c hc
    rcases mem_join hc with rfl | ⟨n, hn, hc⟩
    · decide
    · rcases (h n hn).chars c hc with hp | rfl
      · exact isBlank_of_plain hp
      · decide
  unfold normalizeReference
  rw [trim_eq_self hblank, map_slashes_eq_self (join_lacks h (by decide) (by decide) (by decide)),
    simplify_join hne h, String.ofList_toList]

end Reference

end TwinNode.Path
