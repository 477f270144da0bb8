import Mathlib.Data.List.Nodup
import TwinNode.Json.Printer
import TwinNode.Proofs.Json.Calls
import TwinNode.Proofs.Text.Encoding
import TwinNode.Proofs.Text.PlainName

namespace TwinNode.Json

open TwinNode.Text

def CleanChar (c : Char) : Prop := c ≠ '\x22' ∧ c ≠ '\\' ∧ 32 ≤ c.toNat ∧ c.toNat < 128

/-- A string that is written as it is. -/
def Clean (s : String) : Prop := ∀ c ∈ s.toList, CleanChar c

instance : DecidablePred CleanChar := fun _ => inferInstanceAs (Decidable (_ ∧ _))

instance : DecidablePred Clean := fun s => inferInstanceAs (Decidable (∀ c ∈ s.toList, CleanChar c))

theorem CleanChar.of_plain {c : Char} (h : isPlain c = true) : CleanChar c := by
  have hclean := plain_forall (p := fun d => decide (CleanChar d)) h (by decide)
  simpa using hclean

theorem Clean.of_plain {name : String} (h : PlainName name) : Clean name :=
  fun c hc => .of_plain (h.plain c hc)

/-- Strings that are written as they are, and objects of such values, so many inside one another. -/
inductive Simple : Nat → Value → Prop
  | str {depth : Nat} {s : String} (h : Clean s) : Simple depth (.str s)
  | object {depth : Nat} {members : List (String × Value)} (hne : members ≠ [])
      (hd : (members.map (·.1)).Nodup) (hk : ∀ m ∈ members, Clean m.1)
      (hv : ∀ m ∈ members, Simple depth m.2) :
      Simple (depth + 1) (.object members)

theorem Simple.entry {depth : Nat} {key : String} {v : Value}
    (hk : Clean key) (hv : Simple depth v) :
    Simple (depth + 1) (.object [(key, v)]) :=
  .object (List.cons_ne_nil _ _) (List.nodup_singleton _) (List.forall_mem_singleton.2 hk)
    (List.forall_mem_singleton.2 hv)

theorem quotedChar_of_clean {c : Char} (h : CleanChar c) : quotedChar c = [c] := by
  obtain ⟨hquote, hescape, hcontrol, _⟩ := h
  have hne : ∀ d : Char, d.toNat < 32 → c ≠ d := by
    rintro d hd rfl
    omega
  have hlookup : signs.lookup c = none := by
    simp [signs, hquote, hescape, hne '\x08' (by decide), hne '\x0c' (by decide),
      hne '\n' (by decide), hne '\r' (by decide), hne '\t' (by decide)]
  unfold quotedChar
  rw [hlookup]
  simp only
  rw [if_neg (by omega)]

theorem quoted_of_clean {s : String} (h : Clean s) :
    (quoted s).toList = '\x22' :: (s.toList ++ ['\x22']) := by
  have hchars : ∀ cs : List Char, (∀ c ∈ cs, CleanChar c) → cs.flatMap quotedChar = cs := by
    intro cs hcs
    induction cs with
    | nil => rfl
    | cons c cs ih =>
      rw [List.flatMap_cons, quotedChar_of_clean (hcs c List.mem_cons_self),
        ih fun d hd => hcs d (List.mem_cons_of_mem c hd)]
      rfl
  rw [quoted, String.toList_ofList, hchars s.toList h]
  rfl

theorem string_of_clean {inside : List Char} (h : ∀ c ∈ inside, CleanChar c)
    (opening done rest : List Char) :
    string opening done (inside ++ '\x22' :: rest) = .ok (done.reverse ++ inside, rest) := by
  induction inside generalizing done with
  | nil =>
    rw [List.nil_append, string, List.append_nil]
  | cons c inside ih =>
    obtain ⟨hquote, hescape, hcontrol, _⟩ := h c List.mem_cons_self
    rw [List.cons_append, string.eq_def]
    split
    · next he => cases he
    · next he => exact absurd (List.cons.inj he).1 hquote
    · next he => exact absurd (List.cons.inj he).1 hescape
    · next he => exact absurd (List.cons.inj he).1 hescape
    · next he => exact absurd (List.cons.inj he).1 hescape
    · next he =>
      obtain ⟨rfl, rfl⟩ := List.cons.inj he
      rw [if_neg (by omega), ih fun d hd => h d (List.mem_cons_of_mem c hd),
        List.reverse_cons, List.append_assoc]
      rfl

theorem skipBlanks_of_head {c : Char}
    (hc : (c == ' ' || c == '\t' || c == '\n' || c == '\r') = false)
    (cs : List Char) : skipBlanks (c :: cs) = c :: cs := by
  unfold skipBlanks
  rw [List.dropWhile_cons, hc]
  rfl

theorem skipBlanks_line (depth : Nat) (cs : List Char) :
    skipBlanks ((lineAt depth).toList ++ cs) = skipBlanks cs := by
  have hspaces : ∀ n, skipBlanks (List.replicate n ' ' ++ cs) = skipBlanks cs := by
    intro n
    induction n with
    | zero => rfl
    | succ n ih => exact ih
  have hline : (lineAt depth).toList ++ cs = '\n' :: (List.replicate (2 * depth) ' ' ++ cs) := by
    simp [lineAt]
  rw [hline]
  exact hspaces (2 * depth)

theorem key_of_clean {s : String} (h : Clean s) {c : Char}
    (hc : (c == ' ' || c == '\t' || c == '\n' || c == '\r') = false) (rest : List Char) :
    key ((quoted s).toList ++ ':' :: ' ' :: c :: rest) = .ok (s, c :: rest) := by
  have hcolon : skipBlanks (':' :: ' ' :: c :: rest) = ':' :: ' ' :: c :: rest :=
    skipBlanks_of_head rfl _
  have hvalue : skipBlanks (' ' :: c :: rest) = c :: rest := skipBlanks_of_head hc rest
  rw [quoted_of_clean h, List.cons_append, List.append_assoc, key]
  rw [List.singleton_append, string_of_clean h]
  dsimp only
  rw [hcolon]
  simp only [hvalue, List.reverse_nil, List.nil_append, String.ofList_toList]

section Steps

variable {room : Nat} {stack : List Frame}

theorem readValue_string {s : String} (h : Clean s) (rest : List Char) :
    readValue room stack ((quoted s).toList ++ rest) = finishValue room stack (.str s) rest := by
  have hscalar : scalar ('\x22' :: (s.toList ++ '\x22' :: rest)) = .ok (.str s, rest) := by
    rw [scalar, string_of_clean h]
    simp [Except.map]
  rw [quoted_of_clean h, List.cons_append, List.append_assoc, List.singleton_append]
  exact (Call.Next.scalar (by simp [Call.Opens]) hscalar).result_eq

theorem readValue_object (hroom : stack.length < room) {inner first rest : List Char}
    {name : String} (hinner : skipBlanks inner = '\x22' :: first)
    (hkey : key ('\x22' :: first) = .ok (name, rest)) :
    readValue room stack ('\x7b' :: inner) = readValue room (.object [] name :: stack) rest := by
  rw [← hinner] at hkey
  exact (Call.Next.object hroom (by simp [hinner]) hkey).result_eq

variable {done : List (String × Value)} {name : String} {v : Value} {cs rest : List Char}

theorem finishValue_close (h : skipBlanks cs = '\x7d' :: rest) :
    finishValue room (.object done name :: stack) v cs =
      finishValue room stack (Value.ofMembers ((name, v) :: done).reverse) rest :=
  (Call.Next.closeObject h).result_eq

theorem finishValue_comma {next : String} {after : List Char} (h : skipBlanks cs = ',' :: rest)
    (hkey : key (skipBlanks rest) = .ok (next, after)) :
    finishValue room (.object done name :: stack) v cs =
      readValue room (.object ((name, v) :: done) next :: stack) after :=
  (Call.Next.nextMember h hkey).result_eq

end Steps

/-- The members after the first one, as they are written. -/
def writtenAfter (depth : Nat) : List (String × Value) → List Char
  | [] => (lineAt depth).toList ++ ['\x7d']
  | (k, v) :: members =>
    ',' :: ((lineAt (depth + 1)).toList ++ ((quoted k).toList ++ ':' :: ' ' ::
      ((v.indented (depth + 1)).toList ++ writtenAfter depth members)))

theorem toList_members (depth : Nat) (k : String) (v : Value) (members : List (String × Value)) :
    (String.intercalate ("," ++ lineAt (depth + 1))
      (indentedMembers (depth + 1) ((k, v) :: members)) ++ lineAt depth ++ "\x7d").toList =
      (quoted k).toList ++ ':' :: ' ' :: ((v.indented (depth + 1)).toList ++
        writtenAfter depth members) := by
  induction members generalizing k v with
  | nil => simp [indentedMembers, writtenAfter]
  | cons m members ih =>
    have hrest := ih m.1 m.2
    rw [indentedMembers] at hrest
    rw [indentedMembers, indentedMembers, String.intercalate_cons_cons, writtenAfter, ← hrest]
    simp

theorem toList_indented_object (depth : Nat) (k : String) (v : Value)
    (members : List (String × Value)) :
    ((Value.object ((k, v) :: members)).indented depth).toList =
      '\x7b' :: ((lineAt (depth + 1)).toList ++ ((quoted k).toList ++ ':' :: ' ' ::
        ((v.indented (depth + 1)).toList ++ writtenAfter depth members))) := by
  rw [← toList_members, Value.indented, bracketed, if_neg (by simp [indentedMembers])]
  simp

/-- A value is read from the beginning of a text, whatever lists and objects are open, if there is
room for so many more. -/
def Reads (nesting : Nat) (v : Value) (cs : List Char) : Prop :=
  (∃ c rest, cs = c :: rest ∧ (c == ' ' || c == '\t' || c == '\n' || c == '\r') = false ∧
    c ≠ '\ufeff') ∧
    ∀ room stack rest, List.length stack + nesting ≤ room →
      readValue room stack (cs ++ rest) = finishValue room stack v rest

theorem finishValue_writtenAfter {nesting depth : Nat} {members : List (String × Value)}
    (hk : ∀ m ∈ members, Clean m.1)
    (hv : ∀ m ∈ members, Reads nesting m.2 (m.2.indented (depth + 1)).toList)
    {room : Nat} {stack : List Frame} (hroom : stack.length + 1 + nesting ≤ room)
    (done : List (String × Value)) (name : String) (v : Value) (rest : List Char) :
    finishValue room (.object done name :: stack) v (writtenAfter depth members ++ rest) =
      finishValue room stack (Value.ofMembers (((name, v) :: done).reverse ++ members)) rest := by
  -- On the members that are still to come; `done`, `name` and `v` change with each one that is
  -- read.
  induction members generalizing done name v with
  | nil =>
    have hclose : skipBlanks (writtenAfter depth [] ++ rest) = '\x7d' :: rest := by
      rw [writtenAfter, List.append_assoc, skipBlanks_line]
      rfl
    rw [finishValue_close hclose, List.append_nil]
  | cons m members ih =>
    obtain ⟨⟨c, more, hfirst, hblank, _⟩, hread⟩ := hv m List.mem_cons_self
    obtain ⟨after, hafter⟩ : ∃ after, after = (m.2.indented (depth + 1)).toList ++
        (writtenAfter depth members ++ rest) :=
      ⟨_, rfl⟩
    have hcomma : skipBlanks (writtenAfter depth (m :: members) ++ rest) =
        ',' :: ((lineAt (depth + 1)).toList ++ ((quoted m.1).toList ++ ':' :: ' ' :: after)) := by
      rw [hafter, writtenAfter]
      simp only [List.cons_append, List.append_assoc]
      exact skipBlanks_of_head rfl _
    have hquoted : skipBlanks ((quoted m.1).toList ++ ':' :: ' ' :: after) =
        (quoted m.1).toList ++ ':' :: ' ' :: after := by
      rw [quoted_of_clean (hk m List.mem_cons_self)]
      exact skipBlanks_of_head rfl _
    have hkey :
      key (skipBlanks ((lineAt (depth + 1)).toList ++ ((quoted m.1).toList ++ ':' :: ' ' :: after)))
        = .ok (m.1, after) := by
      rw [skipBlanks_line, hquoted, hafter, hfirst]
      exact key_of_clean (hk m List.mem_cons_self) hblank _
    rw [finishValue_comma hcomma hkey, hafter, hread room (_ :: stack) _ hroom,
      ih (fun n hn => hk n (List.mem_cons_of_mem m hn))
        (fun n hn => hv n (List.mem_cons_of_mem m hn))]
    simp

theorem foldl_putMember {done members : List (String × Value)}
    (h : ((done ++ members).map (·.1)).Nodup) :
    members.foldl (fun done m => putMember done m.1 m.2) done = done ++ members := by
  induction members generalizing done with
  | nil => simp
  | cons m members ih =>
    have hnew : (done.any fun d => d.1 == m.1) = false := by
      rw [List.any_eq_false]
      intro d hd he
      rw [List.map_append, List.nodup_append] at h
      exact h.2.2 d.1 (List.mem_map_of_mem hd) m.1 (List.mem_map_of_mem List.mem_cons_self)
        (beq_iff_eq.1 he)
    have hput : putMember done m.1 m.2 = done ++ [m] := by
      unfold putMember
      rw [hnew]
      rfl
    rw [List.foldl_cons, hput, ih (by simpa using h), List.append_assoc]
    rfl

theorem ofMembers_of_nodup {members : List (String × Value)} (h : (members.map (·.1)).Nodup) :
    Value.ofMembers members = .object members :=
  congrArg Value.object (@foldl_putMember [] members h)

/-- What is written in lines is read back, at every depth. -/
theorem reads_indented {nesting : Nat} {v : Value} (h : Simple nesting v) (depth : Nat) :
    Reads nesting v (v.indented depth).toList := by
  -- On the value; the values inside are one level deeper.
  induction h generalizing depth with
  | @str _ s h =>
    rw [Value.indented]
    refine ⟨⟨'\x22', s.toList ++ ['\x22'], quoted_of_clean h, by decide, by decide⟩,
      fun room stack rest _ => ?_⟩
    exact readValue_string h rest
  | @object nesting members hne hd hk _ ih =>
    obtain ⟨⟨k, v⟩, members, rfl⟩ := List.exists_cons_of_ne_nil hne
    rw [toList_indented_object]
    refine ⟨⟨'\x7b', _, rfl, by decide, by decide⟩, fun room stack rest hroom => ?_⟩
    have hinside : stack.length + 1 + nesting ≤ room := by omega
    obtain ⟨⟨c, more, hfirst, hblank, _⟩, hread⟩ := ih (k, v) List.mem_cons_self (depth + 1)
    have hkey := hk (k, v) List.mem_cons_self
    obtain ⟨after, hafter⟩ : ∃ after, after = (v.indented (depth + 1)).toList ++
        (writtenAfter depth members ++ rest) :=
      ⟨_, rfl⟩
    have hquoted :
      skipBlanks ((lineAt (depth + 1)).toList ++ ((quoted k).toList ++ ':' :: ' ' :: after)) =
        '\x22' :: (k.toList ++ '\x22' :: ':' :: ' ' :: after) := by
      rw [skipBlanks_line, quoted_of_clean hkey, List.cons_append, List.append_assoc]
      exact skipBlanks_of_head rfl _
    have hname : key ('\x22' :: (k.toList ++ '\x22' :: ':' :: ' ' :: after)) = .ok (k, after) := by
      have h := key_of_clean hkey hblank (more ++ (writtenAfter depth members ++ rest))
      rw [quoted_of_clean hkey, List.cons_append, List.append_assoc] at h
      rw [hafter, hfirst]
      exact h
    have hmembers := finishValue_writtenAfter (fun m hm => hk m (List.mem_cons_of_mem _ hm))
      (fun m hm => ih m (List.mem_cons_of_mem _ hm) (depth + 1)) hinside [] k v rest
    have htext : '\x7b' :: ((lineAt (depth + 1)).toList ++ ((quoted k).toList ++ ':' :: ' ' ::
        ((v.indented (depth + 1)).toList ++ writtenAfter depth members))) ++ rest =
        '\x7b' :: ((lineAt (depth + 1)).toList ++ ((quoted k).toList ++ ':' :: ' ' :: after)) := by
      rw [hafter]
      simp
    rw [htext, readValue_object (by omega) hquoted hname, hafter,
      hread room (_ :: stack) _ hinside, hmembers]
    exact congrArg (finishValue room stack · rest) (ofMembers_of_nodup hd)

theorem read_pretty {nesting room : Nat} {v : Value} (h : Simple nesting v)
    (hroom : nesting ≤ room) :
    read room v.pretty.toList = .ok v := by
  obtain ⟨⟨c, rest, hfirst, hblank, hmark⟩, hread⟩ := reads_indented h 0
  have hvalue := hread room [] [] (by simpa using hroom)
  have hend : finishValue room [] v [] = .ok v := by
    rw [finishValue.eq_def]
    rfl
  rw [List.append_nil, hend] at hvalue
  have hfirst' : v.pretty.toList = c :: rest := hfirst
  have hvalue' : readValue room [] v.pretty.toList = .ok v := hvalue
  have hhead : v.pretty.toList.head? ≠ some '\ufeff' := by
    rw [hfirst', List.head?_cons]
    exact fun he => hmark (Option.some.inj he)
  have hskip : skipBlanks v.pretty.toList = v.pretty.toList := by
    rw [hfirst']
    exact skipBlanks_of_head hblank rest
  unfold read
  dsimp only
  rw [if_neg hhead, hskip, hvalue']

theorem unix_quoted {s : String} (h : Clean s) : Unix (quoted s).toList := by
  have hquote : Unix ['\x22'] := .cons (by decide) (List.forall_mem_nil _)
  have hs : Unix s.toList := by
    intro c hc
    obtain ⟨_, _, hcontrol, hascii⟩ := h c hc
    refine ⟨hascii, ?_⟩
    rintro rfl
    exact absurd hcontrol (by decide)
  rw [quoted_of_clean h]
  exact .cons (by decide) (hs.append hquote)

theorem unix_line (depth : Nat) : Unix (lineAt depth).toList := by
  intro c hc
  have hline : c = '\n' ∨ c ∈ List.replicate (2 * depth) ' ' := by
    simpa [lineAt] using hc
  have hspace : c = '\n' ∨ c = ' ' := hline.imp id List.eq_of_mem_replicate
  rcases hspace with rfl | rfl <;> decide

theorem unix_writtenAfter {depth : Nat} {members : List (String × Value)}
    (hk : ∀ m ∈ members, Clean m.1) (hv : ∀ m ∈ members, Unix (m.2.indented (depth + 1)).toList) :
    Unix (writtenAfter depth members) := by
  induction members with
  | nil => exact (unix_line depth).append (.cons (by decide) (List.forall_mem_nil _))
  | cons m members ih =>
    have hrest :=
      ih (fun n hn => hk n (List.mem_cons_of_mem m hn))
        (fun n hn => hv n (List.mem_cons_of_mem m hn))
    have hkey := unix_quoted (hk m List.mem_cons_self)
    have hvalue := hv m List.mem_cons_self
    exact .cons (by decide) ((unix_line _).append (hkey.append (.cons (by decide) (.cons (by decide)
      (hvalue.append hrest)))))

theorem unix_indented {nesting : Nat} {v : Value} (h : Simple nesting v) (depth : Nat) :
    Unix (v.indented depth).toList := by
  induction h generalizing depth with
  | @str _ s h =>
    rw [Value.indented]
    exact unix_quoted h
  | @object _ members hne _ hk _ ih =>
    obtain ⟨⟨k, v⟩, members, rfl⟩ := List.exists_cons_of_ne_nil hne
    have hrest := unix_writtenAfter (fun m hm => hk m (List.mem_cons_of_mem _ hm))
      (fun m hm => ih m (List.mem_cons_of_mem _ hm) (depth + 1))
    have hkey := unix_quoted (hk (k, v) List.mem_cons_self)
    have hvalue := ih (k, v) List.mem_cons_self (depth + 1)
    rw [toList_indented_object]
    exact .cons (by decide) ((unix_line _).append (hkey.append (.cons (by decide) (.cons (by decide)
      (hvalue.append hrest)))))

end TwinNode.Json
