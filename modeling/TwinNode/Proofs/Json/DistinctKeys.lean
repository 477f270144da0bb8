import Mathlib.Data.List.Nodup
import TwinNode.Proofs.Json.Calls

/-! An object of a text that repeats a key has one member for it. So in a value that was
read, no object at any depth has two members with one key. The reader keeps this along its
stack: what is in an open frame was read too. -/

namespace TwinNode.Json

theorem map_key_putMember (members : List (String × Value)) (key : String) (v : Value) :
    (putMember members key v).map (·.1) =
      if key ∈ members.map (·.1) then members.map (·.1) else members.map (·.1) ++ [key] := by
  have hany : (members.any (·.1 == key) = true) ↔ key ∈ members.map (·.1) := by
    simp
  unfold putMember
  by_cases hk : key ∈ members.map (·.1)
  · rw [if_pos (hany.2 hk), if_pos hk, List.map_map]
    refine List.map_congr_left fun m _ => ?_
    dsimp only [Function.comp]
    split
    · next hm => exact (beq_iff_eq.1 hm).symm
    · rfl
  · rw [if_neg (fun h => hk (hany.1 h)), if_neg hk, List.map_append]
    rfl

theorem nodup_putMember {members : List (String × Value)} (h : (members.map (·.1)).Nodup)
    (key : String) (v : Value) :
    ((putMember members key v).map (·.1)).Nodup := by
  rw [map_key_putMember]
  split
  · exact h
  · next hk =>
    refine List.nodup_append.2 ⟨h, List.nodup_singleton key, ?_⟩
    rintro k hin _ hone rfl
    exact hk (List.mem_singleton.1 hone ▸ hin)

theorem mem_putMember {members : List (String × Value)} {key : String}
    {v : Value} {m : String × Value} (h : m ∈ putMember members key v) :
    m ∈ members ∨ m = (key, v) := by
  unfold putMember at h
  split at h
  · obtain ⟨n, hn, rfl⟩ := List.mem_map.1 h
    split
    · exact .inr rfl
    · exact .inl hn
  · rcases List.mem_append.1 h with h | h
    · exact .inl h
    · exact .inr (List.mem_singleton.1 h)

namespace Value

/-- No object in the value has two members with one key. -/
inductive KeysDistinct : Value → Prop
  | null : KeysDistinct .null
  | bool (b : Bool) : KeysDistinct (.bool b)
  | int (n : Int) : KeysDistinct (.int n)
  | real (x : Real) : KeysDistinct (.real x)
  | str (s : String) : KeysDistinct (.str s)
  | list {items : List Value} (h : ∀ v ∈ items, KeysDistinct v) : KeysDistinct (.list items)
  | object {members : List (String × Value)} (hkeys : (members.map (·.1)).Nodup)
      (h : ∀ m ∈ members, KeysDistinct m.2) : KeysDistinct (.object members)

theorem KeysDistinct.entry {name : String} {v : Value} (h : v.KeysDistinct) :
    (Value.object [(name, v)]).KeysDistinct :=
  .object (List.nodup_singleton _) (List.forall_mem_singleton.2 h)

theorem keysDistinct_ofMembers {members : List (String × Value)}
    (h : ∀ m ∈ members, m.2.KeysDistinct) :
    (ofMembers members).KeysDistinct := by
  have hfold : ∀ done : List (String × Value), (done.map (·.1)).Nodup →
    (∀ m ∈ done, m.2.KeysDistinct) →
      KeysDistinct (.object (members.foldl (fun done m => putMember done m.1 m.2) done)) := by
    induction members with
    | nil => exact fun done hkeys hdone => .object hkeys hdone
    | cons m members ih =>
      intro done hkeys hdone
      refine ih (fun n hn => h n (List.mem_cons_of_mem m hn)) _ (nodup_putMember hkeys m.1 m.2)
        fun n hn => ?_
      rcases mem_putMember hn with hn | rfl
      · exact hdone n hn
      · exact h m List.mem_cons_self
  exact hfold [] List.nodup_nil (fun m hm => absurd hm List.not_mem_nil)

theorem KeysDistinct.member? {key : String} {v w : Value} (h : v.KeysDistinct)
    (hw : v.member? key = some w) :
    w.KeysDistinct := by
  cases h with
  | object hkeys h =>
    obtain ⟨m, hm, rfl⟩ := Option.map_eq_some_iff.1 hw
    exact h m (List.mem_of_find?_eq_some hm)
  | null | bool | int | real | str | list => cases hw

theorem KeysDistinct.members? {v : Value} {members : List (String × Value)} (h : v.KeysDistinct)
    (hm : v.members? = some members) : (members.map (·.1)).Nodup := by
  cases h with
  | object hkeys h =>
    obtain rfl := Option.some.inj hm
    exact hkeys
  | null | bool | int | real | str | list => cases hm

end Value

open Value

theorem keysDistinct_number {cs : List Char} {read : Value × List Char} (h : number cs = .ok read) :
    read.1.KeysDistinct := by
  rcases number_cases cs with ⟨_, hn⟩ | ⟨hn, _⟩ | ⟨v, rest, hn, _, ⟨n, rfl⟩ | ⟨x, rfl⟩⟩
  · cases hn.symm.trans h
  · cases hn.symm.trans h
  · obtain rfl := Except.ok.inj (hn.symm.trans h)
    exact .int n
  · obtain rfl := Except.ok.inj (hn.symm.trans h)
    exact .real x

theorem keysDistinct_named {cs : List Char} {read : Value × List Char} (h : named? cs = some read) :
    read.1.KeysDistinct := by
  have hnames : ∀ entry ∈ names, entry.2.KeysDistinct := by
    simp only [names, List.forall_mem_cons]
    exact ⟨.null, .bool _, .bool _, .real _, .real _, .real _, List.forall_mem_nil _⟩
  obtain ⟨entry, hentry, hread⟩ := List.exists_of_findSome?_eq_some h
  obtain ⟨rest, _, rfl⟩ := Option.map_eq_some_iff.1 hread
  exact hnames entry hentry

theorem keysDistinct_scalar {cs : List Char} {read : Value × List Char} (h : scalar cs = .ok read) :
    read.1.KeysDistinct := by
  unfold scalar at h
  split at h
  · next rest =>
    cases hs : string ('\x22' :: rest) [] rest with
    | error e =>
      rw [hs] at h
      cases h
    | ok s =>
      rw [hs] at h
      obtain rfl := Except.ok.inj h
      exact .str _
  · split at h
    · next hn =>
      obtain rfl := Except.ok.inj h
      exact keysDistinct_named hn
    · exact keysDistinct_number h

def Frame.values : Frame → List Value
  | list done => done
  | object done _ => done.map (·.2)

/-- No object in what an open list or object holds so far has two members with one key. -/
def Frame.KeysDistinct (f : Frame) : Prop := ∀ v ∈ f.values, v.KeysDistinct

namespace Frame.KeysDistinct

variable {done : List Value} {members : List (String × Value)} {key : String} {v : Value}

theorem push_list (h : (Frame.list done).KeysDistinct) (hv : v.KeysDistinct) :
    (Frame.list (v :: done)).KeysDistinct :=
  List.forall_mem_cons.2 ⟨hv, h⟩

theorem push_object (h : (Frame.object members key).KeysDistinct)
    (hv : v.KeysDistinct) (next : String) :
    (Frame.object ((key, v) :: members) next).KeysDistinct := List.forall_mem_cons.2 ⟨hv, h⟩

theorem close_list (h : (Frame.list done).KeysDistinct) : (Value.list done.reverse).KeysDistinct :=
  .list fun v hv => h v (List.mem_reverse.1 hv)

theorem close_object (h : (Frame.object members key).KeysDistinct) :
    (ofMembers members.reverse).KeysDistinct :=
  keysDistinct_ofMembers fun m hm => h m.2 (List.mem_map_of_mem (List.mem_reverse.1 hm))

end Frame.KeysDistinct

/-- No object that is read or open in a call has two members with one key. -/
def Call.KeysDistinct : Call → Prop
  | value stack _ => ∀ f ∈ stack, f.KeysDistinct
  | finish stack v _ => (∀ f ∈ stack, f.KeysDistinct) ∧ v.KeysDistinct

namespace Call

variable {room : Nat}

theorem KeysDistinct.next {call next : Call} (h : call.KeysDistinct) (hnext : call.Next room next) :
    next.KeysDistinct := by
  cases hnext with
  | emptyList => exact ⟨h, .list (List.forall_mem_nil _)⟩
  | list => exact List.forall_mem_cons.2 ⟨List.forall_mem_nil _, h⟩
  | emptyObject => exact ⟨h, .object List.nodup_nil (List.forall_mem_nil _)⟩
  | object => exact List.forall_mem_cons.2 ⟨List.forall_mem_nil _, h⟩
  | scalar _ hscalar => exact ⟨h, keysDistinct_scalar hscalar⟩
  | closeList =>
    obtain ⟨hdone, hstack⟩ := List.forall_mem_cons.1 h.1
    exact ⟨hstack, (hdone.push_list h.2).close_list⟩
  | nextItem =>
    obtain ⟨hdone, hstack⟩ := List.forall_mem_cons.1 h.1
    exact List.forall_mem_cons.2 ⟨hdone.push_list h.2, hstack⟩
  | @closeObject _ _ name =>
    obtain ⟨hdone, hstack⟩ := List.forall_mem_cons.1 h.1
    exact ⟨hstack, (hdone.push_object h.2 name).close_object⟩
  | nextMember =>
    obtain ⟨hdone, hstack⟩ := List.forall_mem_cons.1 h.1
    exact List.forall_mem_cons.2 ⟨hdone.push_object h.2 _, hstack⟩

theorem KeysDistinct.of_result (call : Call) (h : call.KeysDistinct) {v : Value}
    (hv : call.result room = .ok v) :
    v.KeysDistinct := by
  obtain ⟨last, hlast, hends⟩ := exists_ending KeysDistinct KeysDistinct.next call h
  rw [hv] at hends
  cases hends
  exact hlast.2

end Call

/-- No object in a value that was read from a text has two members with one key. -/
theorem keysDistinct_read {room : Nat} {text : List Char} {v : Value} (h : read room text = .ok v) :
    v.KeysDistinct := by
  unfold read at h
  dsimp only at h
  split at h
  · next hv =>
    obtain rfl := Except.ok.inj h
    split at hv
    · cases hv
    · exact Call.KeysDistinct.of_result (.value [] (skipBlanks text)) (List.forall_mem_nil _) hv
  · cases h
  · cases h

end TwinNode.Json
