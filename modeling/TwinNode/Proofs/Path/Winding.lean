import TwinNode.Proofs.Path.Segments

/-! The pieces of a written path stand between separators, one or more slashes or
backslashes each. A piece leads one segment down, or it stays where it is, or it leads one
segment up. Where pieces that lead nowhere are inserted into a path, single dots or pairs of
a segment and two dots, all pieces together still lead where the path leads. -/

namespace TwinNode.Path

/-- What can stand between separators. -/
structure Piece (p : List Char) : Prop where
  ne_nil : p ≠ []
  slashless : '/' ∉ p
  backslashless : '\\' ∉ p

/-- A segment of a path: a piece that means no directory by itself. -/
structure Proper (s : List Char) : Prop extends Piece s where
  ne_dot : s ≠ ['.']
  ne_dots : s ≠ ['.', '.']

instance (p : List Char) : Decidable (Piece p) :=
  decidable_of_iff (p ≠ [] ∧ '/' ∉ p ∧ '\\' ∉ p) ⟨fun ⟨hne, hslash, hback⟩ => ⟨hne, hslash, hback⟩,
    fun h => ⟨h.ne_nil, h.slashless, h.backslashless⟩⟩

instance (s : List Char) : Decidable (Proper s) :=
  decidable_of_iff (Piece s ∧ s ≠ ['.'] ∧ s ≠ ['.', '.'])
    ⟨fun ⟨hpiece, hdot, hdots⟩ => ⟨hpiece, hdot, hdots⟩, fun h => ⟨h.toPiece, h.ne_dot, h.ne_dots⟩⟩

/-- The pieces of a way to a path: its segments, and anywhere among them, one in another too, `.`
pieces and pairs of a segment and a `..` that takes it back. -/
inductive Winding (segments : List (List Char)) : List (List Char) → Prop
  | straight : Winding segments segments
  | dot (before after : List (List Char)) (h : Winding segments (before ++ after)) :
    Winding segments (before ++ ['.'] :: after)
  | detour (before after : List (List Char)) {x : List Char} (hx : Proper x)
    (h : Winding segments (before ++ after)) :
    Winding segments (before ++ x :: ['.', '.'] :: after)

theorem Proper.not_dots {s : List Char} (h : Proper s) : s ≠ [] ∧ s ≠ ['.'] ∧ s ≠ ['.', '.'] :=
  ⟨h.ne_nil, h.ne_dot, h.ne_dots⟩

theorem pushSegment_back {s : List Char} (h : Proper s) (absolute : Bool)
    (done : List (List Char)) :
    pushSegment absolute (s :: done) ['.', '.'] = done := by
  unfold pushSegment
  simp [h.ne_dots]

theorem mem_pushSegment {absolute : Bool} {done : List (List Char)} {p s : List Char}
    (h : s ∈ pushSegment absolute done p) : s ∈ done ∨ s = p := by
  unfold pushSegment at h
  split at h
  · exact .inl h
  · split at h
    · split at h <;> split_ifs at h <;> simp_all
    · exact (List.mem_cons.1 h).symm

theorem mem_foldl_pushSegment {absolute : Bool} {pieces done : List (List Char)} {s : List Char}
    (h : s ∈ pieces.foldl (pushSegment absolute) done) : s ∈ done ∨ s ∈ pieces := by
  induction pieces generalizing done with
  | nil => exact .inl h
  | cons p pieces ih =>
    rcases ih h with hs | hs
    · exact (mem_pushSegment hs).imp_right fun he => List.mem_cons.2 (.inl he)
    · exact .inr (List.mem_cons_of_mem p hs)

section Winding

variable {segments pieces : List (List Char)} (h : Winding segments pieces)
include h

/-- The pieces lead where the segments lead. -/
theorem Winding.foldl_pushSegment (absolute : Bool) (done : List (List Char)) :
    pieces.foldl (pushSegment absolute) done = segments.foldl (pushSegment absolute) done := by
  induction h with
  | straight => rfl
  | dot before after _ ih =>
    have hdot : ∀ done, pushSegment absolute done ['.'] = done := fun _ => rfl
    rw [← ih, List.foldl_append, List.foldl_append, List.foldl_cons, hdot]
  | detour before after hx _ ih =>
    rw [← ih, List.foldl_append, List.foldl_append, List.foldl_cons, List.foldl_cons,
      pushSegment_of_not_dots hx.not_dots, pushSegment_back hx]

theorem Winding.piece (hsegments : ∀ s ∈ segments, Proper s) : ∀ p ∈ pieces, Piece p := by
  have hdot : Piece ['.'] := by decide
  have hdots : Piece ['.', '.'] := by decide
  induction h with
  | straight => exact fun s hs => (hsegments s hs).toPiece
  | dot before after _ ih =>
    obtain ⟨hbefore, hafter⟩ := List.forall_mem_append.1 ih
    exact List.forall_mem_append.2 ⟨hbefore, List.forall_mem_cons.2 ⟨hdot, hafter⟩⟩
  | detour before after hx _ ih =>
    obtain ⟨hbefore, hafter⟩ := List.forall_mem_append.1 ih
    exact List.forall_mem_append.2
      ⟨hbefore, List.forall_mem_cons.2 ⟨hx.toPiece, List.forall_mem_cons.2 ⟨hdots, hafter⟩⟩⟩

end Winding

/-! ## Depth -/

/-- How far down a piece leads. -/
def level (p : List Char) : Int := if p = ['.'] then 0 else if p = ['.', '.'] then -1 else 1

/-- How far down pieces lead together. -/
def depth : List (List Char) → Int
  | [] => 0
  | p :: pieces => level p + depth pieces

@[simp] theorem depth_cons (p : List Char) (pieces : List (List Char)) :
    depth (p :: pieces) = level p + depth pieces := rfl

@[simp] theorem depth_append (pieces more : List (List Char)) :
    depth (pieces ++ more) = depth pieces + depth more := by
  induction pieces with
  | nil => exact (Int.zero_add _).symm
  | cons p pieces ih => rw [List.cons_append, depth_cons, depth_cons, ih, Int.add_assoc]

theorem depth_reverse (pieces : List (List Char)) : depth pieces.reverse = depth pieces := by
  induction pieces with
  | nil => rfl
  | cons p pieces ih =>
    have hlast : depth [p] = level p := Int.add_zero _
    rw [List.reverse_cons, depth_append, ih, hlast, depth_cons, Int.add_comm]

theorem level_proper {s : List Char} (h : Proper s) : level s = 1 := by
  rw [level, if_neg h.ne_dot, if_neg h.ne_dots]

theorem proper_of_level {p : List Char} (hp : Piece p) (h : level p = 1) : Proper p where
  toPiece := hp
  ne_dot := by
    rintro rfl
    exact absurd h (by decide)
  ne_dots := by
    rintro rfl
    exact absurd h (by decide)

theorem dot_not_mem_pushSegment {absolute : Bool} {done : List (List Char)}
    (h : ['.'] ∉ done) (p : List Char) :
    ['.'] ∉ pushSegment absolute done p := by
  intro hmem
  rcases mem_pushSegment hmem with hdone | rfl
  · exact h hdone
  · exact h hmem

/-- What is left lies as much deeper as the piece leads down, unless the path is absolute. -/
theorem depth_pushSegment {p : List Char} (hp : p ≠ []) {done : List (List Char)}
    (hdone : ['.'] ∉ done) :
    depth (pushSegment false done p) = depth done + level p := by
  by_cases hdot : p = ['.']
  · subst hdot
    exact (Int.add_zero _).symm
  · by_cases hdots : p = ['.', '.']
    · subst hdots
      have hlevel : level ['.', '.'] = -1 := rfl
      cases done with
      | nil => rfl
      | cons last before =>
        by_cases hlast : last = ['.', '.']
        · have hpush : pushSegment false (last :: before) ['.', '.'] =
              ['.', '.'] :: last :: before := by
            simp [pushSegment, hlast]
          rw [hpush, depth_cons, Int.add_comm]
        · have hpush : pushSegment false (last :: before) ['.', '.'] = before := by
            simp [pushSegment, hlast]
          have hdot : last ≠ ['.'] := fun he => hdone (he ▸ List.mem_cons_self)
          have hdown : level last = 1 := by rw [level, if_neg hdot, if_neg hlast]
          rw [hpush, depth_cons, hdown, hlevel]
          omega
    · rw [pushSegment_of_not_dots ⟨hp, hdot, hdots⟩, depth_cons, level, if_neg hdot,
        if_neg hdots, Int.add_comm]

theorem depth_foldl_pushSegment {pieces : List (List Char)} (h : ∀ p ∈ pieces, p ≠ [])
    {done : List (List Char)} (hdone : ['.'] ∉ done) :
    depth (pieces.foldl (pushSegment false) done) = depth done + depth pieces := by
  induction pieces generalizing done with
  | nil => exact (Int.add_zero _).symm
  | cons p pieces ih =>
    obtain ⟨hp, hrest⟩ := List.forall_mem_cons.1 h
    rw [List.foldl_cons, ih hrest (dot_not_mem_pushSegment hdone p), depth_pushSegment hp hdone,
      depth_cons, Int.add_assoc]

theorem Winding.depth_eq {segments pieces : List (List Char)} (h : Winding segments pieces) :
    depth pieces = depth segments := by
  induction h with
  | straight => rfl
  | dot before after _ ih =>
    have hdot : level ['.'] = 0 := rfl
    rw [← ih, depth_append, depth_append, depth_cons, hdot, Int.zero_add]
  | detour before after hx _ ih =>
    have hdots : level ['.', '.'] = -1 := rfl
    rw [← ih, depth_append, depth_append, depth_cons, depth_cons, level_proper hx, hdots]
    omega

/-! ## Written pieces -/

/-- A character between the segments of a written path. -/
def Separates (c : Char) : Prop := c = '/' ∨ c = '\\'

instance (c : Char) : Decidable (Separates c) := inferInstanceAs (Decidable (c = '/' ∨ c = '\\'))

/-- Pieces with one or more separators between them. -/
inductive Joined : List (List Char) → List Char → Prop
  | single (p : List Char) : Joined [p] p
  | cons {p separators : List Char} {pieces : List (List Char)}
    {path : List Char} (hne : separators ≠ []) (hseparators : ∀ c ∈ separators, Separates c)
    (h : Joined pieces path) : Joined (p :: pieces) (p ++ (separators ++ path))

def slashed (cs : List Char) : List Char := cs.map fun c => if c = '\\' then '/' else c

theorem slashed_append (cs ds : List Char) : slashed (cs ++ ds) = slashed cs ++ slashed ds :=
  List.map_append

theorem slashed_separators {separators : List Char} (h : ∀ c ∈ separators, Separates c) :
    slashed separators = List.replicate separators.length '/' := by
  rw [List.eq_replicate_iff]
  refine ⟨List.length_map _, fun d hd => ?_⟩
  obtain ⟨c, hc, rfl⟩ := List.mem_map.1 hd
  rcases h c hc with rfl | rfl <;> rfl

/-- The stretches between the slashes of a path that are not empty. -/
def stretches (cs : List Char) : List (List Char) := (splitSlashes cs).filter (· ≠ [])

/-- Empty stretches make no difference. -/
theorem foldl_filter_pushSegment (absolute : Bool) (parts done : List (List Char)) :
    (parts.filter (· ≠ [])).foldl (pushSegment absolute) done =
      parts.foldl (pushSegment absolute) done := by
  induction parts generalizing done with
  | nil => rfl
  | cons s parts ih =>
    by_cases hs : s = []
    · subst hs
      exact ih done
    · rw [List.filter_cons_of_pos (by simpa using hs), List.foldl_cons, List.foldl_cons, ih]

theorem stretches_slashes (n : Nat) (cs : List Char) :
    stretches (List.replicate n '/' ++ cs) = stretches cs := by
  induction n with
  | zero => rfl
  | succ n ih =>
    rw [List.replicate_succ, List.cons_append, stretches, splitSlashes, if_pos rfl,
      List.filter_cons_of_neg (by simp)]
    exact ih

theorem stretches_piece {p : List Char} (hp : Piece p) (n : Nat) (cs : List Char) :
    stretches (p ++ (List.replicate (n + 1) '/' ++ cs)) = p :: stretches cs := by
  have hslashes := stretches_slashes n cs
  unfold stretches at hslashes ⊢
  rw [List.replicate_succ, List.cons_append, splitSlashes_append hp.slashless,
    List.filter_cons_of_pos (by simpa using hp.ne_nil), hslashes]

/-- The pieces of a written path are the stretches between its separators. -/
theorem stretches_joined {pieces : List (List Char)} {path trailing : List Char}
    (h : Joined pieces path) (hpieces : ∀ p ∈ pieces, Piece p)
    (htrailing : ∀ c ∈ trailing, Separates c) :
    stretches (slashed (path ++ trailing)) = pieces := by
  induction h with
  | single p =>
    have hp := hpieces p (List.mem_singleton_self p)
    rw [slashed_append, slashed_separators htrailing, slashed, map_slashes_eq_self hp.backslashless]
    cases trailing.length with
    | zero => simp [stretches, splitSlashes_of_not_mem hp.slashless, hp.ne_nil]
    | succ n =>
      have hp' := stretches_piece hp n []
      rwa [List.append_nil] at hp'
  | @cons p separators pieces path hne hseparators _ ih =>
    obtain ⟨hp, hrest⟩ := List.forall_mem_cons.1 hpieces
    obtain ⟨n, hn⟩ := Nat.exists_eq_succ_of_ne_zero (List.length_pos_of_ne_nil hne).ne'
    rw [List.append_assoc, List.append_assoc, slashed_append, slashed_append,
      slashed_separators hseparators, hn, slashed, map_slashes_eq_self hp.backslashless,
        Nat.succ_eq_add_one, stretches_piece hp, ih hrest]

/-- Another first piece may stand before the same separators. -/
theorem Joined.of_cons {first : List Char} {rest : List (List Char)} {path : List Char}
    (h : Joined (first :: rest) path) :
    ∃ more, path = first ++ more ∧ (∀ c, more.head? = some c → Separates c) ∧
      ∀ other, Joined (other :: rest) (other ++ more) := by
  cases h with
  | single =>
    refine ⟨[], (List.append_nil first).symm, by simp, fun other => ?_⟩
    rw [List.append_nil]
    exact .single other
  | @cons _ separators _ path hne hseparators h =>
    obtain ⟨c, cs, rfl⟩ := List.exists_cons_of_ne_nil hne
    refine ⟨_, rfl, fun d hd => ?_, fun _ => .cons hne hseparators h⟩
    obtain rfl := Option.some.inj hd
    exact hseparators c List.mem_cons_self

theorem Joined.ne_nil {pieces : List (List Char)} {path : List Char} (h : Joined pieces path) :
    pieces ≠ [] := by
  cases h <;> exact List.cons_ne_nil _ _

/-- A written path ends as its last piece. -/
theorem Joined.getLast? {pieces : List (List Char)} {path : List Char} (h : Joined pieces path)
    (hpieces : ∀ p ∈ pieces, p ≠ []) :
    ∃ last, pieces.getLast? = some last ∧ path.getLast? = last.getLast? := by
  induction h with
  | single p => exact ⟨p, rfl, rfl⟩
  | @cons p separators pieces path _ _ _ ih =>
    obtain ⟨_, hrest⟩ := List.forall_mem_cons.1 hpieces
    obtain ⟨last, hlast, hpath⟩ := ih hrest
    obtain ⟨c, hc⟩ :=
      Option.ne_none_iff_exists'.1 (mt List.getLast?_eq_none_iff.1
        (hrest last (List.mem_of_getLast? hlast)))
    refine ⟨last, by rw [List.getLast?_cons, hlast]; rfl, ?_⟩
    rw [List.getLast?_append, List.getLast?_append, hpath, hc]
    rfl

/-- The pieces of a written path lead to what is left of them. -/
theorem simplify_joined {pieces : List (List Char)} {path trailing : List Char}
    (h : Joined pieces path) (hpieces : ∀ p ∈ pieces, Piece p)
    (htrailing : ∀ c ∈ trailing, Separates c) :
    simplify (slashed (path ++ trailing)) = List.intercalate ['/']
      (pieces.foldl (pushSegment false) []).reverse := by
  have hstretches := stretches_joined h hpieces htrailing
  have hleading : leadingSlashes (slashed (path ++ trailing)) = [] := by
    obtain ⟨first, rest, rfl⟩ := List.exists_cons_of_ne_nil h.ne_nil
    obtain ⟨more, rfl, _⟩ := h.of_cons
    have hfirst := hpieces first List.mem_cons_self
    obtain ⟨c, cs, rfl⟩ := List.exists_cons_of_ne_nil hfirst.ne_nil
    have hslash : c ≠ '/' := fun he => hfirst.slashless (he ▸ List.mem_cons_self)
    have hback : c ≠ '\\' := fun he => hfirst.backslashless (he ▸ List.mem_cons_self)
    simp [leadingSlashes, slashed, hslash, hback]
  unfold simplify
  dsimp only
  rw [hleading, ← foldl_filter_pushSegment, ← stretches, hstretches]
  rfl

/-- A path that begins with a separator stays absolute. -/
theorem head?_simplify_absolute {cs : List Char} (h : ∀ c, cs.head? = some c →
    Separates c) {c : Char} (hc : (simplify (slashed cs)).head? = some c) : c = '/' := by
  cases cs with
  | nil => cases hc
  | cons d cs =>
    have hslash : slashed (d :: cs) = '/' :: slashed cs := by
      rcases h d rfl with rfl | rfl <;> rfl
    have hleading : ∃ more, leadingSlashes ('/' :: slashed cs) = '/' :: more := by
      unfold leadingSlashes
      rw [List.takeWhile_cons_of_pos rfl, List.length_cons]
      split
      · contradiction
      · exact ⟨_, rfl⟩
      · exact ⟨_, rfl⟩
    obtain ⟨more, hmore⟩ := hleading
    unfold simplify at hc
    dsimp only at hc
    rw [hslash, hmore] at hc
    exact (Option.some.inj hc).symm

end TwinNode.Path
