import TwinNode.Package.Discovery
import TwinNode.Proofs.Path.Join
import TwinNode.Settings

namespace TwinNode

open TwinNode.Path (FileName)
open TwinNode.Text

namespace Glob

def Literal (c : Char) : Prop := c ≠ '*' ∧ c ≠ '?' ∧ c ≠ '['

theorem tokensFrom_literal {cs : List Char} (h : ∀ c ∈ cs, Literal c)
    {fuel : Nat} (hf : cs.length < fuel) (rest : List Char) :
    tokensFrom fuel (cs ++ rest) = cs.map .char ++ tokensFrom (fuel - cs.length) rest := by
  induction cs generalizing fuel with
  | nil => rfl
  | cons c cs ih =>
    obtain ⟨hstar, hany, hset⟩ := h c List.mem_cons_self
    rw [List.length_cons] at hf ⊢
    obtain ⟨fuel, rfl⟩ : ∃ n, fuel = n + 1 := ⟨fuel - 1, by omega⟩
    have hlength : cs.length < fuel := by omega
    have hrest := ih (fun d hd => h d (List.mem_cons_of_mem c hd)) hlength
    have hstep : tokensFrom (fuel + 1) (c :: (cs ++ rest)) =
        .char c :: tokensFrom fuel (cs ++ rest) := by
      rw [tokensFrom.eq_def]
      split <;> simp_all
    rw [List.cons_append, hstep, hrest, Nat.add_sub_add_right]
    rfl

theorem accepts_stretches (cs : List Char) : accepts [.stretch, .stretch] cs = true := by
  refine accepts_of_matches (.stretchEnd ?_)
  induction cs with
  | nil => exact .stretchEnd .nil
  | cons c cs ih => exact .stretchMore ih

theorem accepts_literal (cs text : List Char) :
    accepts (cs.map .char ++ [.stretch, .stretch]) text = cs.isPrefixOf text := by
  induction cs generalizing text with
  | nil => simpa using accepts_stretches text
  | cons c cs ih =>
    rw [List.map_cons, List.cons_append]
    cases text with
    | nil => exact accepts_char_nil (by simp) _
    | cons d text =>
      rw [accepts_char_cons (by simp), ih, List.isPrefixOf_cons_cons, Token.acceptsChar, BEq.comm]

/-- A pattern that ends in two stars matches what begins like it. -/
theorem isMatch_literal {pattern : String} {cs : List Char} (hp : pattern.toList = cs ++ ['*', '*'])
    (h : ∀ c ∈ cs, Literal c) (text : String) :
    isMatch pattern text = cs.isPrefixOf text.toList := by
  have hlength : (cs ++ ['*', '*']).length - cs.length = 2 := by simp
  unfold isMatch tokens
  rw [hp, tokensFrom_literal h (by simp), hlength, ← accepts_literal]
  rfl

end Glob

/-- The directories that default settings exclude. -/
def excludedDirectories : List String := ["node_modules", "test", "tests", "examples"]

theorem default_patterns : ∀ pattern ∈ ({} : Settings).exclude, ∃ x ∈ excludedDirectories,
    pattern.toList = (x.toList ++ ['/']) ++ ['*', '*'] ∧ (∀ c ∈ x.toList ++ ['/'], Glob.Literal c) ∧
      '/' ∉ x.toList := by
  unfold Glob.Literal
  decide

theorem isPrefixOf_directory {x d : List Char} (hx : '/' ∉ x) (hd : '/' ∉ d) (rest : List Char) :
    (x ++ ['/']).isPrefixOf (d ++ '/' :: rest) = true → x = d := by
  rw [List.isPrefixOf_iff_prefix]
  rintro ⟨more, hmore⟩
  rw [List.append_assoc, List.singleton_append] at hmore
  have hsplit := congrArg Path.splitSlashes hmore
  rw [Path.splitSlashes_append hx, Path.splitSlashes_append hd] at hsplit
  exact (List.cons.inj hsplit).1

/-- A path in another directory is not excluded. -/
theorem excludesFile_default {d path : String} {rest : List Char}
    (hpath : path.toList = d.toList ++ '/' :: rest) (hslash : '/' ∉ d.toList)
    (hd : d ∉ excludedDirectories) :
    Glob.excludesFile ({} : Settings).exclude path = false := by
  unfold Glob.excludesFile
  rw [List.any_eq_false]
  intro pattern hp hmatch
  obtain ⟨x, hx, hpattern, hliteral, hxslash⟩ := default_patterns pattern hp
  rw [Glob.isMatch_literal hpattern hliteral, hpath] at hmatch
  have heq := isPrefixOf_directory hxslash hslash rest hmatch
  exact hd (String.toList_inj.1 heq ▸ hx)

theorem toList_join_cons {d : String} {rest : List String} (h : rest ≠ []) :
    (Path.join (d :: rest)).toList = d.toList ++ '/' :: (Path.join rest).toList := by
  have hjoin := Path.join_append (List.cons_ne_nil d []) h
  rw [List.singleton_append, Path.join_singleton] at hjoin
  rw [hjoin]
  simp

section Names

variable {d : String} {rest : List String} (h : ∀ n ∈ d :: rest, FileName n ∧ n ≠ "node_modules")
  (hd : d ∉ excludedDirectories)
include h

theorem normalize_join_names : Path.normalize (Path.join (d :: rest)) = Path.join (d :: rest) :=
  Path.normalize_eq_self (Path.join_lacks (fun n hn => (h n hn).1)
    (by decide) (by decide) (by decide))

include hd

theorem entersDirectory_names : entersDirectory ({} : Settings).exclude (d :: rest) = true := by
  obtain ⟨more, hmore⟩ : ∃ more, (Path.join (d :: rest) ++ "/**").toList =
      d.toList ++ '/' :: more := by
    rw [String.toList_append]
    by_cases hr : rest = []
    · subst hr
      rw [Path.join_singleton]
      exact ⟨['*', '*'], rfl⟩
    · rw [toList_join_cons hr, List.append_assoc]
      exact ⟨_, rfl⟩
  have hslash : '/' ∉ d.toList := (h d List.mem_cons_self).1.not_mem (by decide) (by decide)
  have hdirectory : Glob.excludesDirectory ({} : Settings).exclude (Path.join (d :: rest)) =
      false :=
    excludesFile_default hmore hslash hd
  obtain ⟨last, hlast⟩ :=
    List.getLast?_isSome.2 (List.cons_ne_nil d rest) |> Option.isSome_iff_exists.1
  obtain ⟨hname, hskipped⟩ := h last (List.mem_of_getLast? hlast)
  have hhidden : last.toList.head? ≠ some '.' := hname.head_ne (by decide)
  unfold entersDirectory
  rw [hlast, normalize_join_names h]
  dsimp only
  rw [hdirectory]
  simp [hhidden, skippedDirectories, hskipped]

theorem findsFile_names (hr : rest ≠ []) :
    findsFile ({} : Settings).exclude (d :: rest) = true := by
  have hslash : '/' ∉ d.toList := (h d List.mem_cons_self).1.not_mem (by decide) (by decide)
  have hfile := excludesFile_default (toList_join_cons (d := d) hr) hslash hd
  have henters : ∀ depth, entersDirectory ({} : Settings).exclude ((d :: rest).take depth) =
      true := by
    intro depth
    cases depth with
    | zero => rfl
    | succ depth =>
      rw [List.take_succ_cons]
      refine entersDirectory_names (fun n hn => h n ?_) hd
      rcases List.mem_cons.1 hn with rfl | hn
      · exact List.mem_cons_self
      · exact List.mem_cons_of_mem d (List.mem_of_mem_take hn)
  unfold findsFile
  rw [normalize_join_names h, hfile, Bool.not_false, Bool.and_true, List.all_eq_true]
  intro depth _
  exact henters depth

end Names

end TwinNode
