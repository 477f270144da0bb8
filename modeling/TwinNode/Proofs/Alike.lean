import Mathlib.Data.List.Forall2
import Mathlib.Data.List.Perm.Basic

namespace TwinNode

section Lists

variable {R : α → β → Prop} {xs : List α} {ys : List β}

theorem map_eq_of_forall₂ (h : List.Forall₂ R xs ys) {f : α → γ} {g : β → γ}
    (hf : ∀ a ∈ xs, ∀ b, R a b → f a = g b) :
    xs.map f = ys.map g := by
  induction h with
  | nil => rfl
  | cons hab _ ih =>
    rw [List.map_cons, List.map_cons, hf _ List.mem_cons_self _ hab,
      ih fun a ha => hf a (List.mem_cons_of_mem _ ha)]

theorem filterMap_eq_of_forall₂ (h : List.Forall₂ R xs ys) {f : α → Option γ} {g : β → Option γ}
    (hf : ∀ a ∈ xs, ∀ b, R a b → f a = g b) : xs.filterMap f = ys.filterMap g := by
  have hmap := congrArg (List.filterMap id) (map_eq_of_forall₂ h hf)
  rwa [List.filterMap_map, List.filterMap_map, Function.id_comp, Function.id_comp] at hmap

theorem flatMap_eq_of_forall₂ (h : List.Forall₂ R xs ys) {f : α → List γ} {g : β → List γ}
    (hf : ∀ a ∈ xs, ∀ b, R a b → f a = g b) : xs.flatMap f = ys.flatMap g :=
  congrArg List.flatten (map_eq_of_forall₂ h hf)

theorem flatMap_perm_of_forall₂ (h : List.Forall₂ R xs ys) {f : α → List γ} {g : β → List γ}
    (hf : ∀ a ∈ xs, ∀ b, R a b → (f a).Perm (g b)) : (xs.flatMap f).Perm (ys.flatMap g) := by
  induction h with
  | nil => exact .nil
  | cons hab _ ih =>
    rw [List.flatMap_cons, List.flatMap_cons]
    exact (hf _ List.mem_cons_self _ hab).append (ih fun a ha => hf a (List.mem_cons_of_mem _ ha))

section Tests

variable {p : α → Bool} {q : β → Bool} (hp : ∀ a b, R a b → p a = q b)
include hp

theorem forall₂_filter (h : List.Forall₂ R xs ys) : List.Forall₂ R (xs.filter p) (ys.filter q) :=
  List.rel_filter (fun _ _ hab => Bool.eq_iff_iff.1 (hp _ _ hab)) h

theorem rel_find? (h : List.Forall₂ R xs ys) : Option.Rel R (xs.find? p) (ys.find? q) := by
  induction h with
  | nil => exact .none
  | @cons a b _ _ hab _ ih =>
    rw [List.find?_cons, List.find?_cons, hp a b hab]
    split
    · exact .some hab
    · exact ih

end Tests

/-- Where items that are selected are related only to themselves, the selections are the same. -/
theorem filter_eq_of_forall₂ {R : α → α → Prop} {p q : α → Bool} {xs ys : List α}
    (h : List.Forall₂ R xs ys) (hp : ∀ a b, R a b → p a = q b)
    (hsame : ∀ a b, R a b → p a = true → a = b) : xs.filter p = ys.filter q := by
  have hmap := map_eq_of_forall₂ (forall₂_filter hp h) (f := id) (g := id) fun a ha b hab =>
    hsame a b hab (List.mem_filter.1 ha).2
  rwa [List.map_id, List.map_id] at hmap

/-- Related lists are sorted alike by orders that agree on related items. -/
theorem forall₂_mergeSort {le : α → α → Bool} {le' : β → β → Bool}
    (hle : ∀ a b c d, R a b → R c d → le a c = le' b d) (h : List.Forall₂ R xs ys) :
    List.Forall₂ R (xs.mergeSort le) (ys.mergeSort le') := by
  have hpairs : ∀ z ∈ xs.zip ys, R z.1 z.2 := fun z hz => List.forall₂_zip h hz
  have hxs : (xs.zip ys).map (·.1) = xs := List.map_fst_zip (Nat.le_of_eq h.length_eq)
  have hys : (xs.zip ys).map (·.2) = ys := List.map_snd_zip (Nat.le_of_eq h.length_eq.symm)
  have hleft :=
    List.map_mergeSort (r := fun z w : α × β => le z.1 w.1) (s := le) (f := (·.1)) (l := xs.zip ys)
    fun _ _ _ _ => rfl
  have hright :=
    List.map_mergeSort (r := fun z w : α × β => le z.1 w.1) (s := le') (f := (·.2)) (l := xs.zip ys)
    fun z hz w hw => hle _ _ _ _ (hpairs z hz) (hpairs w hw)
  rw [hxs] at hleft
  rw [hys] at hright
  rw [← hleft, ← hright, List.forall₂_map_left_iff, List.forall₂_map_right_iff, List.forall₂_same]
  exact fun z hz => hpairs z (List.mem_mergeSort.1 hz)

theorem rel_getLast? (h : List.Forall₂ R xs ys) : Option.Rel R xs.getLast? ys.getLast? := by
  have hreverse := List.rel_reverse h
  rw [List.getLast?_eq_head?_reverse, List.getLast?_eq_head?_reverse]
  generalize xs.reverse = back, ys.reverse = others at hreverse
  cases hreverse with
  | nil => exact .none
  | cons hab _ => exact .some hab

end Lists

section Options

variable {R : α → β → Prop} {a : Option α} {b : Option β} (h : Option.Rel R a b)
include h

theorem map_eq_of_rel {f : α → γ} {g : β → γ} (hf : ∀ a b, R a b → f a = g b) :
    a.map f = b.map g := by
  cases h with
  | none => rfl
  | some hab => exact congrArg some (hf _ _ hab)

theorem isSome_eq_of_rel : a.isSome = b.isSome := by
  cases h <;> rfl

theorem rel_getD {c : α} {d : β} (hd : R c d) : R (a.getD c) (b.getD d) := by
  cases h with
  | none => exact hd
  | some hab => exact hab

theorem rel_bind {S : γ → δ → Prop} {f : α → Option γ} {g : β → Option δ}
    (hf : ∀ a b, R a b → Option.Rel S (f a) (g b)) : Option.Rel S (a.bind f) (b.bind g) := by
  cases h with
  | none => exact .none
  | some hab => exact hf _ _ hab

end Options

/-- Two runs that fail in the same way or give related results. -/
inductive EndAlike (R : α → β → Prop) : Except ε α → Except ε β → Prop where
  | ok {a : α} {b : β} (h : R a b) : EndAlike R (.ok a) (.ok b)
  | error (e : ε) : EndAlike R (.error e) (.error e)

theorem EndAlike.mapM {R : β → γ → Prop} {f : α → Except ε β} {g : α → Except ε γ} {xs : List α}
    (h : ∀ x ∈ xs, EndAlike R (f x) (g x)) : EndAlike (List.Forall₂ R) (xs.mapM f) (xs.mapM g) := by
  induction xs with
  | nil => exact .ok .nil
  | cons x xs ih =>
    obtain ⟨hx, hxs⟩ := List.forall_mem_cons.1 h
    have ih := ih hxs
    rw [List.mapM_cons, List.mapM_cons]
    generalize f x = y, g x = z at hx
    generalize xs.mapM f = ys, xs.mapM g = zs at ih
    cases hx with
    | error e => exact .error e
    | ok hx =>
      cases ih with
      | error e => exact .error e
      | ok hxs => exact .ok (.cons hx hxs)

theorem EndAlike.of_map {R : α → α → Prop} {run : Except ε α} {f : α → α}
    (h : ∀ a, run = .ok a → R (f a) a) :
    EndAlike R (run.map f) run := by
  cases run with
  | error e => exact .error e
  | ok a => exact .ok (h a rfl)

theorem EndAlike.imp {R S : α → β → Prop} {run : Except ε α} {other : Except ε β}
    (h : EndAlike R run other) (hf : ∀ a b, run = .ok a → R a b → S a b) :
    EndAlike S run other := by
  cases h with
  | ok hab => exact .ok (hf _ _ rfl hab)
  | error e => exact .error e

theorem EndAlike.map {R : α → β → Prop} {S : γ → δ → Prop} {run : Except ε α}
    {other : Except ε β} {f : α → γ} {g : β → δ} (h : EndAlike R run other)
    (hf : ∀ a b, R a b → S (f a) (g b)) : EndAlike S (run.map f) (other.map g) := by
  cases h with
  | ok hab => exact .ok (hf _ _ hab)
  | error e => exact .error e

theorem EndAlike.bind {R : α → β → Prop} {S : γ → δ → Prop} {run : Except ε α} {other : Except ε β}
    {f : α → Except ε γ} {g : β → Except ε δ} (h : EndAlike R run other)
    (hf : ∀ a b, R a b → EndAlike S (f a) (g b)) :
    EndAlike S (run.bind f) (other.bind g) := by
  cases h with
  | ok hab => exact hf _ _ hab
  | error e => exact .error e

end TwinNode
