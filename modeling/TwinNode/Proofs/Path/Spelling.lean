import TwinNode.Proofs.Path.Winding

/-! A path can be written in many ways: with several separators, slashes or backslashes,
between its segments and after them, with `.` segments, with segments that a `..` takes
back, and with blanks around it. All these are spellings of one path, and a reference that
is written as one of them names this path. But the blanks at the beginning go first. So
where a segment that is taken back comes first, what is left of it without these blanks has
to be a segment, too. -/

namespace TwinNode.Path

open TwinNode.Text

/-- The pieces as they may be written: joined, with separators after them and blanks around. -/
def Written (pieces : List (List Char)) (written : List Char) : Prop :=
  ∃ path trailing left right, Joined pieces path ∧ (∀ c ∈ trailing, Separates c) ∧
    (∀ c ∈ left, isBlank c = true) ∧
    (∀ c ∈ right, isBlank c = true) ∧ written = left ++ (path ++ trailing ++ right)

/-- A path: one or more segments, with no blanks at the ends. -/
structure IsPath (segments : List (List Char)) : Prop where
  ne_nil : segments ≠ []
  proper : ∀ s ∈ segments, Proper s
  trimmed : trim (List.intercalate ['/'] segments) = List.intercalate ['/'] segments

instance (segments : List (List Char)) : Decidable (IsPath segments) :=
  decidable_of_iff (segments ≠ [] ∧ (∀ s ∈ segments, Proper s) ∧
    trim (List.intercalate ['/'] segments) = List.intercalate ['/'] segments)
    ⟨fun ⟨hne, hproper, htrimmed⟩ => ⟨hne, hproper, htrimmed⟩,
      fun h => ⟨h.ne_nil, h.proper, h.trimmed⟩⟩

/-- A segment that comes first is one without the blanks that it begins with, too. -/
def FirstStays (pieces : List (List Char)) : Prop :=
  ∀ x, pieces.head? = some x → Proper x → Proper (trimLeft x)

/-- The text is a spelling of the path. -/
def Spells (segments : List (List Char)) (written : String) : Prop :=
  ∃ pieces, Winding segments pieces ∧ FirstStays pieces ∧ Written pieces written.toList

/-! ## Blanks around -/

/-- The ends of a text are no blanks. -/
structure Bare (cs : List Char) : Prop where
  head : ∀ c, cs.head? = some c → isBlank c = false
  last : ∀ c, cs.getLast? = some c → isBlank c = false

theorem visible_of_dropWhile {cs : List Char} {c : Char}
    (h : (cs.dropWhile isBlank).head? = some c) : isBlank c = false := by
  have hc := List.head?_dropWhile_not isBlank cs
  rw [h] at hc
  exact hc

theorem dropWhile_of_visible {cs : List Char} (h : ∀ c, cs.head? = some c → isBlank c = false) :
    cs.dropWhile isBlank = cs := by
  cases cs with
  | nil => rfl
  | cons c cs => exact List.dropWhile_cons_of_neg (by rw [h c rfl]; exact Bool.false_ne_true)

theorem bare_of_trim_eq {cs : List Char} (h : trim cs = cs) : Bare cs := by
  constructor
  · intro c hc
    -- Trimming at the end leaves the beginning.
    have hbegins : trim cs <+: trimLeft cs := by
      rw [trim, trimRight, ← List.reverse_suffix, List.reverse_reverse]
      exact List.dropWhile_suffix isBlank
    obtain ⟨blanks, hblanks⟩ := hbegins
    have hhead : (cs.dropWhile isBlank).head? = some c := by
      rw [← trimLeft, ← hblanks, h, List.head?_append, hc]
      rfl
    exact visible_of_dropWhile hhead
  · intro c hc
    rw [← h, trim, trimRight, List.getLast?_reverse] at hc
    exact visible_of_dropWhile hc

theorem trim_around {left core right : List Char} (hleft : ∀ c ∈ left, isBlank c = true)
    (hright : ∀ c ∈ right, isBlank c = true) (hcore : Bare core) :
    trim (left ++ (core ++ right)) = core := by
  have htrimLeft : trimLeft (left ++ (core ++ right)) = (core ++ right).dropWhile isBlank :=
    List.dropWhile_append_of_pos hleft
  have hcoreRight : trimRight (core ++ right) = core := by
    have hlast : ∀ c, core.reverse.head? = some c → isBlank c = false := by
      rw [List.head?_reverse]
      exact hcore.last
    rw [trimRight, List.reverse_append, List.dropWhile_append_of_pos fun c hc =>
      hright c (List.mem_reverse.1 hc), dropWhile_of_visible hlast, List.reverse_reverse]
  cases core with
  | nil =>
    have hright' : right.dropWhile isBlank = [] := List.dropWhile_eq_nil_iff.2 hright
    rw [trim, htrimLeft, List.nil_append, hright']
    rfl
  | cons c cs =>
    have hhead : ∀ d, (c :: cs ++ right).head? = some d → isBlank d = false :=
      fun d hd => hcore.head d hd
    rw [trim, htrimLeft, dropWhile_of_visible hhead, hcoreRight]

/-! ## Written references -/

theorem Separates.visible {c : Char} (h : Separates c) : isBlank c = false := by
  rcases h with rfl | rfl <;> decide

theorem separates_of_head? {more trailing : List Char}
    (hmore : ∀ c, more.head? = some c → Separates c) (htrailing : ∀ c ∈ trailing, Separates c)
    {c : Char} (hc : (more ++ trailing).head? = some c) : Separates c := by
  rw [List.head?_append] at hc
  cases hhead : more.head? with
  | some d =>
    rw [hhead] at hc
    obtain rfl := Option.some.inj hc
    exact hmore d hhead
  | none =>
    rw [hhead] at hc
    exact htrailing c (List.mem_of_mem_head? hc)

/-- The last piece is one that was there before others were inserted, or the last one of them. -/
theorem getLast?_inserted {before after : List (List Char)} (inserted : List (List Char))
    {p : List Char} (h : (before ++ (inserted ++ after)).getLast? = some p) :
    (before ++ after).getLast? = some p ∨ inserted.getLast? = some p := by
  rw [List.getLast?_append, List.getLast?_append] at h
  rw [List.getLast?_append]
  cases hafter : after.getLast? with
  | some last => exact .inl (by rwa [hafter] at h)
  | none =>
    rw [hafter, Option.none_or] at h
    cases hinserted : inserted.getLast? with
    | some last => exact .inr (by rwa [hinserted] at h)
    | none => exact .inl (by rwa [hinserted] at h)

theorem Joined.intercalate {segments : List (List Char)} (hne : segments ≠ []) :
    Joined segments (List.intercalate ['/'] segments) := by
  induction segments with
  | nil => exact absurd rfl hne
  | cons s segments ih =>
    cases segments with
    | nil => simpa [List.intercalate] using Joined.single s
    | cons t segments =>
      rw [List.intercalate_cons_cons, List.append_assoc]
      exact .cons (List.cons_ne_nil _ _) (List.forall_mem_singleton.2 (.inl rfl))
        (ih (List.cons_ne_nil _ _))

namespace IsPath

variable {segments pieces : List (List Char)} (h : IsPath segments)
include h

theorem head_visible {s : List Char} (hs : segments.head? = some s) : trimLeft s = s := by
  obtain ⟨rest, rfl⟩ := List.head?_eq_some_iff.1 hs
  obtain ⟨more, hpath, _⟩ := (Joined.intercalate h.ne_nil).of_cons
  refine dropWhile_of_visible fun c hc => (bare_of_trim_eq h.trimmed).head c ?_
  rw [hpath, List.head?_append, hc]
  rfl

theorem last_visible {s : List Char} (hs : segments.getLast? = some s) {c : Char}
    (hc : s.getLast? = some c) :
    isBlank c = false := by
  obtain ⟨last, hlast, hpath⟩ := (Joined.intercalate h.ne_nil).getLast? fun p hp =>
    (h.proper p hp).ne_nil
  obtain rfl := Option.some.inj (hlast.symm.trans hs)
  exact (bare_of_trim_eq h.trimmed).last c (hpath.trans hc)

/-- The last piece of a way ends as the last segment, or with a dot. -/
theorem winding_last_visible (hwinding : Winding segments pieces) {p : List Char}
    (hp : pieces.getLast? = some p) {c : Char} (hc : p.getLast? = some c) : isBlank c = false := by
  -- On how the way was made: what is inserted ends with a dot.
  induction hwinding generalizing p with
  | straight => exact h.last_visible hp hc
  | dot before after _ ih =>
    rcases getLast?_inserted [['.']] hp with hp | hp
    · exact ih hp hc
    · cases hp
      obtain rfl := Option.some.inj hc
      decide
  | @detour before after x hx _ ih =>
    rcases getLast?_inserted [x, ['.', '.']] hp with hp | hp
    · exact ih hp hc
    · cases hp
      obtain rfl := Option.some.inj hc
      decide

/-- The first piece of a way may lose the blanks that it begins with, if it stays. -/
theorem winding_trimLeft {first : List Char} {rest : List (List Char)}
    (hwinding : Winding segments (first :: rest)) (hstays : FirstStays (first :: rest)) :
    Winding segments (trimLeft first :: rest) := by
  generalize hpieces : first :: rest = pieces at hwinding
  -- Only what is inserted in front becomes the first piece; that it stays is what a detour needs.
  induction hwinding generalizing rest with
  | straight =>
    rw [h.head_visible (hpieces ▸ rfl), hpieces]
    exact .straight
  | dot before after hway ih =>
    cases before with
    | nil =>
      obtain ⟨rfl, rfl⟩ := List.cons.inj hpieces
      exact .dot [] rest hway
    | cons s before =>
      obtain ⟨rfl, rfl⟩ := List.cons.inj hpieces
      exact .dot (trimLeft first :: before) after (ih hstays rfl)
  | @detour before after x hx hway ih =>
    cases before with
    | nil =>
      obtain ⟨rfl, rfl⟩ := List.cons.inj hpieces
      exact .detour [] after (hstays first rfl hx) hway
    | cons s before =>
      obtain ⟨rfl, rfl⟩ := List.cons.inj hpieces
      exact .detour (trimLeft first :: before) after hx (ih hstays rfl)

/-- Of a written reference the blanks go: those around, and those that the first piece begins
with. -/
theorem trim_written {first more trailing left right : List Char} {rest : List (List Char)}
    (hwinding : Winding segments (first :: rest)) (hjoined : Joined (first :: rest) (first ++ more))
    (hmore : ∀ c, more.head? = some c → Separates c) (htrailing : ∀ c ∈ trailing, Separates c)
    (hleft : ∀ c ∈ left, isBlank c = true) (hright : ∀ c ∈ right, isBlank c = true) :
    trim (left ++ (first ++ more ++ trailing ++ right)) = trimLeft first ++ more ++ trailing := by
  have hfirst : first.takeWhile isBlank ++ trimLeft first = first := List.takeWhile_append_dropWhile
  have hblanks : ∀ c ∈ left ++ first.takeWhile isBlank, isBlank c = true :=
    List.forall_mem_append.2 ⟨hleft, fun c hc => List.mem_takeWhile_imp hc⟩
  have hsplit : left ++ (first ++ more ++ trailing ++ right) =
      left ++ first.takeWhile isBlank ++ (trimLeft first ++ more ++ trailing ++ right) := by
    simp only [List.append_assoc]
    rw [← List.append_assoc (first.takeWhile isBlank), hfirst]
  rw [hsplit]
  refine trim_around hblanks hright ⟨fun c hc => ?_, fun c hc => ?_⟩
  · rw [List.append_assoc, List.head?_append] at hc
    cases hhead : (trimLeft first).head? with
    | some d =>
      rw [hhead] at hc
      obtain rfl := Option.some.inj hc
      exact visible_of_dropWhile hhead
    | none =>
      rw [hhead] at hc
      exact (separates_of_head? hmore htrailing hc).visible
  · rw [List.getLast?_append] at hc
    cases hlast : trailing.getLast? with
    | some d =>
      rw [hlast] at hc
      obtain rfl := Option.some.inj hc
      exact (htrailing d (List.mem_of_getLast? hlast)).visible
    | none =>
      rw [hlast, Option.none_or] at hc
      obtain ⟨p, hp, hpath⟩ := hjoined.getLast? fun p hp => (hwinding.piece h.proper p hp).ne_nil
      refine h.winding_last_visible hwinding hp ?_
      rw [← hpath, ← hfirst, List.append_assoc, List.getLast?_append, hc]
      rfl

theorem head?_intercalate : ∃ c, (List.intercalate ['/'] segments).head? = some c ∧ c ≠ '/' := by
  obtain ⟨s, rest, rfl⟩ := List.exists_cons_of_ne_nil h.ne_nil
  have hs := h.proper s List.mem_cons_self
  obtain ⟨c, cs, rfl⟩ := List.exists_cons_of_ne_nil hs.ne_nil
  obtain ⟨more, hpath, _⟩ := (Joined.intercalate h.ne_nil).of_cons
  exact ⟨c, by rw [hpath]; rfl, fun he => hs.slashless (he ▸ List.mem_cons_self)⟩

/-- Pieces lead to a path only if they lead as far down as its segments. -/
theorem depth_of_leads {pieces : List (List Char)} (hpieces : ∀ p ∈ pieces, Piece p)
    (hleads : List.intercalate ['/'] (pieces.foldl (pushSegment false) []).reverse =
      List.intercalate ['/'] segments) :
    depth pieces = depth segments := by
  have hleft : (pieces.foldl (pushSegment false) []).reverse ≠ [] := by
    intro hnone
    obtain ⟨c, hc, _⟩ := h.head?_intercalate
    rw [← hleads, hnone] at hc
    cases hc
  have hslashless : ∀ s ∈ (pieces.foldl (pushSegment false) []).reverse, '/' ∉ s := fun s hs =>
    have hpiece := (mem_foldl_pushSegment (List.mem_reverse.1 hs)).resolve_left List.not_mem_nil
    (hpieces s hpiece).slashless
  have hsame := congrArg splitSlashes hleads
  rw [splitSlashes_intercalate hleft hslashless,
    splitSlashes_intercalate h.ne_nil fun s hs => (h.proper s hs).slashless] at hsame
  have hdepth := depth_foldl_pushSegment (fun p hp => (hpieces p hp).ne_nil) List.not_mem_nil
  rw [← hsame, depth_reverse, hdepth]
  exact (Int.zero_add _).symm

/-- Where a reference leads to the path without the blanks, its first piece stays. -/
theorem firstStays_of_leads {first more trailing : List Char} {rest : List (List Char)}
    (hwinding : Winding segments (first :: rest))
    (hjoined : Joined (trimLeft first :: rest) (trimLeft first ++ more))
    (hmore : ∀ c, more.head? = some c → Separates c) (htrailing : ∀ c ∈ trailing, Separates c)
    (hleads : simplify (slashed (trimLeft first ++ more ++ trailing)) =
      List.intercalate ['/'] segments) :
    FirstStays (first :: rest) := by
  intro x hx hproper
  obtain rfl := Option.some.inj hx
  -- If nothing is left of the first piece, the path is absolute.
  have hstays : trimLeft first ≠ [] := by
    intro hnone
    obtain ⟨c, hc, hslash⟩ := h.head?_intercalate
    rw [← hleads, hnone, List.nil_append] at hc
    exact hslash (head?_simplify_absolute (fun _ => separates_of_head? hmore htrailing) hc)
  have hsuffix : ∀ c ∈ trimLeft first, c ∈ first :=
    fun c hc => (List.dropWhile_suffix isBlank).subset hc
  obtain ⟨hfirst, hrest⟩ := List.forall_mem_cons.1 (hwinding.piece h.proper)
  have hpiece : Piece (trimLeft first) :=
    ⟨hstays, fun hc => hfirst.slashless (hsuffix _ hc),
      fun hc => hfirst.backslashless (hsuffix _ hc)⟩
  have hpieces : ∀ p ∈ trimLeft first :: rest, Piece p := List.forall_mem_cons.2 ⟨hpiece, hrest⟩
  -- If dots are left of it, the pieces do not lead far enough down.
  rw [simplify_joined hjoined hpieces htrailing] at hleads
  have hdepth := h.depth_of_leads hpieces hleads
  rw [depth_cons, ← hwinding.depth_eq, depth_cons, level_proper hproper] at hdepth
  exact proper_of_level hpiece (by omega)

/-- Exactly the written references with a first piece that stays name the path. -/
theorem normalizeReference_eq_iff {written : String} (hwinding : Winding segments pieces)
    (hwritten : Written pieces written.toList) :
    normalizeReference written = String.ofList (List.intercalate ['/'] segments) ↔
      FirstStays pieces := by
  obtain ⟨path, trailing, left, right, hjoined, htrailing, hleft, hright, heq⟩ := hwritten
  obtain ⟨first, rest, rfl⟩ := List.exists_cons_of_ne_nil hjoined.ne_nil
  obtain ⟨more, rfl, hmore, hother⟩ := hjoined.of_cons
  have hreference : normalizeReference written = String.ofList
      (simplify (slashed (trimLeft first ++ more ++ trailing))) := by
    rw [normalizeReference, heq, h.trim_written hwinding hjoined hmore htrailing hleft hright]
    rfl
  rw [hreference, String.ofList_inj]
  constructor
  · exact h.firstStays_of_leads hwinding (hother _) hmore htrailing
  · intro hstays
    have htrimmed := h.winding_trimLeft hwinding hstays
    rw [simplify_joined (hother _) (htrimmed.piece h.proper) htrailing, htrimmed.foldl_pushSegment,
      Path.foldl_pushSegment fun s hs => (h.proper s hs).not_dots,
        List.append_nil, List.reverse_reverse]

/-- A spelling of a path names it. -/
theorem normalizeReference_of_spells {written : String} (hspells : Spells segments written) :
    normalizeReference written = String.ofList (List.intercalate ['/'] segments) := by
  obtain ⟨pieces, hwinding, hstays, hwritten⟩ := hspells
  exact (h.normalizeReference_eq_iff hwinding hwritten).2 hstays

end IsPath

end TwinNode.Path
