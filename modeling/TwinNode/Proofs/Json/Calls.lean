import TwinNode.Json.Reader

namespace TwinNode.Json

/-- A call of the reader: on a value, or on what follows one. -/
inductive Call where
  | value (stack : List Frame) (cs : List Char)
  | finish (stack : List Frame) (v : Value) (cs : List Char)

namespace Call

def text : Call → List Char
  | value _ cs => cs
  | finish _ _ cs => cs

def result (room : Nat) : Call → Except Failure Value
  | value stack cs => readValue room stack cs
  | finish stack v cs => finishValue room stack v cs

/-- A list or an object begins the text. -/
def Opens (cs : List Char) : Prop := cs.head? = some '[' ∨ cs.head? = some '\x7b'

/-- The call that a call goes on with. -/
inductive Next (room : Nat) : Call → Call → Prop
  | emptyList {stack : List Frame} {inner rest : List Char} (hroom : stack.length < room)
      (h : skipBlanks inner = ']' :: rest) :
      Next room (value stack ('[' :: inner)) (finish stack (.list []) rest)
  | list {stack : List Frame} {inner : List Char} (hroom : stack.length < room)
      (h : (skipBlanks inner).head? ≠ some ']') :
      Next room (value stack ('[' :: inner)) (value (.list [] :: stack) (skipBlanks inner))
  | emptyObject {stack : List Frame} {inner rest : List Char} (hroom : stack.length < room)
      (h : skipBlanks inner = '\x7d' :: rest) :
      Next room (value stack ('\x7b' :: inner)) (finish stack (.object []) rest)
  | object {stack : List Frame} {inner rest : List Char} {name : String}
      (hroom : stack.length < room) (h : (skipBlanks inner).head? ≠ some '\x7d')
      (hkey : key (skipBlanks inner) = .ok (name, rest)) :
      Next room (value stack ('\x7b' :: inner)) (value (.object [] name :: stack) rest)
  | scalar {stack : List Frame} {cs rest : List Char} {v : Value} (hopens : ¬Opens cs)
      (h : Json.scalar cs = .ok (v, rest)) : Next room (value stack cs) (finish stack v rest)
  | closeList {stack : List Frame} {done : List Value} {v : Value} {cs rest : List Char}
      (h : skipBlanks cs = ']' :: rest) :
      Next room (finish (.list done :: stack) v cs) (finish stack (.list (v :: done).reverse) rest)
  | nextItem {stack : List Frame} {done : List Value} {v : Value} {cs rest : List Char}
      (h : skipBlanks cs = ',' :: rest) :
      Next room (finish (.list done :: stack) v cs)
        (value (.list (v :: done) :: stack) (skipBlanks rest))
  | closeObject {stack : List Frame} {members : List (String × Value)} {name : String}
      {v : Value} {cs rest : List Char} (h : skipBlanks cs = '\x7d' :: rest) :
      Next room (finish (.object members name :: stack) v cs)
        (finish stack (Value.ofMembers ((name, v) :: members).reverse) rest)
  | nextMember {stack : List Frame} {members : List (String × Value)}
      {name next : String} {v : Value} {cs rest after : List Char} (h : skipBlanks cs = ',' :: rest)
      (hkey : key (skipBlanks rest) = .ok (next, after)) :
      Next room (finish (.object members name :: stack) v cs)
        (value (.object ((name, v) :: members) next :: stack) after)

/-- How a call ends the reading: with a value, or with what is wrong. -/
inductive Ends (room : Nat) : Call → Except Failure Value → Prop
  | read {v : Value} {cs : List Char} (h : skipBlanks cs = []) : Ends room (finish [] v cs) (.ok v)
  | deepNesting {stack : List Frame} {cs : List Char} (hopens : Opens cs)
      (hroom : room ≤ stack.length) :
      Ends room (value stack cs) (.error (.excess .deepNesting))
  | brokenKey {stack : List Frame} {inner : List Char} {e : Failure}
      (h : key (skipBlanks inner) = .error e) :
      Ends room (value stack ('\x7b' :: inner)) (.error e)
  | brokenScalar {stack : List Frame} {cs : List Char} {e : Failure}
      (h : Json.scalar cs = .error e) : Ends room (value stack cs) (.error e)
  | brokenNextKey {stack : List Frame} {members : List (String × Value)} {name : String} {v : Value}
      {cs rest : List Char} {e : Failure} (h : key (skipBlanks rest) = .error e) :
      Ends room (finish (.object members name :: stack) v cs) (.error e)
  | malformed (call : Call) (problem : Problem) (rest : List Char) :
      Ends room call (.error (.malformed problem rest))

variable {room : Nat}

theorem Next.result_eq {call next : Call} (h : call.Next room next) :
    call.result room = next.result room := by
  cases h with
  | emptyList hroom h =>
    show readValue _ _ _ = finishValue _ _ _ _
    rw [readValue, if_neg (Nat.not_le.2 hroom)]
    split
    · next hs => rw [(List.cons.inj (h.symm.trans hs)).2]
    · next hs => exact absurd h (hs _)
  | list hroom h =>
    show readValue _ _ _ = readValue _ _ _
    rw [readValue, if_neg (Nat.not_le.2 hroom)]
    split
    · next hs => exact absurd (congrArg List.head? hs) h
    · rfl
  | emptyObject hroom h =>
    show readValue _ _ _ = finishValue _ _ _ _
    rw [readValue, if_neg (Nat.not_le.2 hroom)]
    split
    · next hs => rw [(List.cons.inj (h.symm.trans hs)).2]
    · next hs => exact absurd h (hs _)
  | object hroom h hkey =>
    show readValue _ _ _ = readValue _ _ _
    rw [readValue, if_neg (Nat.not_le.2 hroom)]
    split
    · next hs => exact absurd (congrArg List.head? hs) h
    · split
      · next hk => cases hkey.symm.trans hk
      · next hk =>
        obtain ⟨rfl, rfl⟩ := Prod.mk.inj (Except.ok.inj (hkey.symm.trans hk))
        rfl
  | @scalar _ cs _ _ hopens h =>
    show readValue _ _ _ = finishValue _ _ _ _
    rw [readValue.eq_3 _ _ cs (fun _ he => hopens (.inl (congrArg List.head? he)))
      (fun _ he => hopens (.inr (congrArg List.head? he)))]
    split
    · next hs => cases h.symm.trans hs
    · next hs =>
      obtain ⟨rfl, rfl⟩ := Prod.mk.inj (Except.ok.inj (h.symm.trans hs))
      rfl
  | closeList h =>
    show finishValue _ _ _ _ = finishValue _ _ _ _
    rw [finishValue]
    split
    · next hs => rw [(List.cons.inj (h.symm.trans hs)).2]
    · next hs => cases h.symm.trans hs
    · next hs _ => exact absurd h (hs _)
  | nextItem h =>
    show finishValue _ _ _ _ = readValue _ _ _
    rw [finishValue]
    split
    · next hs => cases h.symm.trans hs
    · next hs => rw [(List.cons.inj (h.symm.trans hs)).2]
    · next hs => exact absurd h (hs _)
  | closeObject h =>
    show finishValue _ _ _ _ = finishValue _ _ _ _
    rw [finishValue]
    split
    · next hs => rw [(List.cons.inj (h.symm.trans hs)).2]
    · next hs => cases h.symm.trans hs
    · next hs _ => exact absurd h (hs _)
  | nextMember h hkey =>
    show finishValue _ _ _ _ = readValue _ _ _
    rw [finishValue]
    split
    · next hs => cases h.symm.trans hs
    · next hs =>
      obtain rfl := (List.cons.inj (h.symm.trans hs)).2
      split
      · next hk => cases hkey.symm.trans hk
      · next hk =>
        obtain ⟨rfl, rfl⟩ := Prod.mk.inj (Except.ok.inj (hkey.symm.trans hk))
        rfl
    · next hs => exact absurd h (hs _)

theorem value_next_or_ends (stack : List Frame) (cs : List Char) :
    (∃ next, (value stack cs).Next room next) ∨
      (value stack cs).Ends room (readValue room stack cs) := by
  rw [readValue.eq_def]
  split
  · next inner =>
    split
    · next hdeep => exact .inr (.deepNesting (.inl rfl) hdeep)
    · next hroom =>
      split
      · next hs => exact .inl ⟨_, .emptyList (Nat.not_le.1 hroom) hs⟩
      · next hs =>
          exact .inl ⟨_, .list (Nat.not_le.1 hroom) fun he => (List.head?_eq_some_iff.1 he).elim hs⟩
  · next inner =>
    split
    · next hdeep => exact .inr (.deepNesting (.inr rfl) hdeep)
    · next hroom =>
      split
      · next hs => exact .inl ⟨_, .emptyObject (Nat.not_le.1 hroom) hs⟩
      · next hs =>
        split
        · next hk => exact .inr (.brokenKey hk)
        · next hk =>
          exact .inl
            ⟨_, .object (Nat.not_le.1 hroom) (fun he => (List.head?_eq_some_iff.1 he).elim hs) hk⟩
  · next hlist hobject =>
    split
    · next h => exact .inr (.brokenScalar h)
    · next h =>
      refine .inl ⟨_, .scalar ?_ h⟩
      rintro (he | he)
      · exact (List.head?_eq_some_iff.1 he).elim hlist
      · exact (List.head?_eq_some_iff.1 he).elim hobject

theorem finish_next_or_ends (stack : List Frame) (v : Value) (cs : List Char) :
    (∃ next, (finish stack v cs).Next room next) ∨
      (finish stack v cs).Ends room (finishValue room stack v cs) := by
  rw [finishValue.eq_def]
  split
  · split
    · next hs => exact .inr (.read hs)
    · exact .inr (.malformed ..)
  · split
    · next hs => exact .inl ⟨_, .closeList hs⟩
    · next hs => exact .inl ⟨_, .nextItem hs⟩
    · exact .inr (.malformed ..)
  · split
    · next hs => exact .inl ⟨_, .closeObject hs⟩
    · next hs =>
      split
      · next hk => exact .inr (.brokenNextKey hk)
      · next hk => exact .inl ⟨_, .nextMember hs hk⟩
    · exact .inr (.malformed ..)

theorem next_or_ends : ∀ call : Call, (∃ next, call.Next room next) ∨
    call.Ends room (call.result room)
  | value stack cs => value_next_or_ends stack cs
  | finish stack v cs => finish_next_or_ends stack v cs

theorem Next.leaves {call next : Call} (h : call.Next room next) : Leaves call.text next.text := by
  cases h with
  | emptyList _ h | emptyObject _ h => exact .cons _ (leaves_of_skipBlanks h).suffix
  | list => exact .cons _ (skipBlanks_suffix _)
  | object _ _ hkey => exact .cons _ ((key_leaves hkey).of_suffix (skipBlanks_suffix _)).suffix
  | scalar _ h => exact scalar_leaves h
  | closeList h | closeObject h => exact leaves_of_skipBlanks h
  | nextItem h => exact (leaves_of_skipBlanks h).trans_suffix (skipBlanks_suffix _)
  | nextMember h hkey =>
    exact (leaves_of_skipBlanks h).trans_suffix
      ((key_leaves hkey).of_suffix (skipBlanks_suffix _)).suffix

/-- What is kept from call to call holds of the call that ends the reading. The induction is on the
length of the text, which every call that goes on shortens. -/
theorem exists_ending (Kept : Call → Prop) (hnext : ∀ {call next : Call}, Kept call →
    call.Next room next → Kept next) (call : Call) (h : Kept call) : ∃ last : Call, Kept last ∧
      last.Ends room (call.result room) := by
  obtain ⟨next, hn⟩ | hends : (∃ next, call.Next room next) ∨ call.Ends room (call.result room) :=
    call.next_or_ends
  · obtain ⟨last, hlast, hends⟩ := exists_ending Kept hnext next (hnext h hn)
    exact ⟨last, hlast, hn.result_eq ▸ hends⟩
  · exact ⟨call, h, hends⟩
termination_by call.text.length
decreasing_by exact hn.leaves.length_lt

end Call

end TwinNode.Json
