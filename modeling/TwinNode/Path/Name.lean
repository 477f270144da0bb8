import TwinNode.Text.LowerCase

/-! Paths below a package root are written with slashes. A path is a directory and a name; a
name is a stem and one of the suffixes of node files, where the case of a suffix does not
matter. The files of one node share directory and stem. -/

namespace TwinNode.Path

open TwinNode.Text

/-- The part of a path before its last slash; empty without one. -/
def directoryChars (path : List Char) : List Char :=
  ((path.reverse.dropWhile (· != '/')).drop 1).reverse

/-- The part of a path after its last slash; all of it without one. -/
def nameChars (path : List Char) : List Char :=
  (path.reverse.takeWhile (· != '/')).reverse

theorem dropWhile_slash_eq_nil_iff {cs : List Char} : cs.dropWhile (· != '/') = [] ↔ '/' ∉ cs := by
  induction cs with
  | nil => simp
  | cons c cs ih =>
    by_cases h : c = '/'
    · simp [h]
    · have h' : '/' ≠ c := fun e => h e.symm
      simp [h, h', ih]

/-- A path with a slash is its directory, a slash and its name. -/
theorem directoryChars_append_nameChars {path : List Char} (h : '/' ∈ path) :
    directoryChars path ++ '/' :: nameChars path = path := by
  obtain ⟨rest, hr⟩ : ∃ rest, path.reverse.dropWhile (· != '/') = '/' :: rest := by
    cases hd : path.reverse.dropWhile (· != '/') with
    | nil => exact absurd (List.mem_reverse.2 h) (dropWhile_slash_eq_nil_iff.1 hd)
    | cons c rest =>
      have hc := List.head?_dropWhile_not (· != '/') path.reverse
      rw [hd] at hc
      exact ⟨rest, by simpa using hc⟩
  have hsplit := List.takeWhile_append_dropWhile (p := (· != '/')) (l := path.reverse)
  rw [hr] at hsplit
  have hpath := congrArg List.reverse hsplit
  simpa [directoryChars, nameChars, hr] using hpath

/-- A path without a slash has no directory. -/
theorem directoryChars_eq_nil {path : List Char} (h : '/' ∉ path) : directoryChars path = [] := by
  have hd : path.reverse.dropWhile (· != '/') = [] :=
    dropWhile_slash_eq_nil_iff.2 fun hr => h (List.mem_reverse.1 hr)
  simp [directoryChars, hd]

theorem slash_not_mem_nameChars (path : List Char) : '/' ∉ nameChars path := by
  intro h
  have hall : (path.reverse.takeWhile (· != '/')).all (· != '/') = true := List.all_takeWhile
  have := List.all_eq_true.1 hall '/' (List.mem_reverse.1 h)
  simp at this

def directory (path : String) : String := String.ofList (directoryChars path.toList)

def name (path : String) : String := String.ofList (nameChars path.toList)

/-- The stretches between the slashes of a path. -/
def splitSlashes : List Char → List (List Char)
  | [] => [[]]
  | c :: cs =>
    if c = '/' then [] :: splitSlashes cs
    else
      match splitSlashes cs with
      | s :: ss => (c :: s) :: ss
      | [] => [[c]]

theorem splitSlashes_ne_nil (cs : List Char) : splitSlashes cs ≠ [] := by
  fun_cases splitSlashes cs <;> simp_all

/-- The stretches with slashes between them are the path again. -/
theorem intercalate_splitSlashes (cs : List Char) :
    List.intercalate ['/'] (splitSlashes cs) = cs := by
  fun_induction splitSlashes cs with
  | case1 => rfl
  | case2 cs ih =>
    obtain ⟨s, ss, h⟩ := List.exists_cons_of_ne_nil (splitSlashes_ne_nil cs)
    rw [h] at ih ⊢
    rw [List.intercalate_cons_cons, ih]
    rfl
  | case3 c cs hc s ss h ih =>
    rw [h] at ih
    cases ss <;> simp_all [List.intercalate]
  | case4 c cs hc h => exact absurd h (splitSlashes_ne_nil cs)

/-- The directories of a path and its name, outermost first. -/
def segments (path : String) : List String :=
  (splitSlashes path.toList).map String.ofList

def join (segments : List String) : String :=
  String.intercalate "/" segments

/-- A name below a directory; the empty directory is the root. -/
def child (directory name : String) : String :=
  if directory.isEmpty then name else directory ++ "/" ++ name

def normalize (path : String) : String :=
  String.ofList (path.toList.map fun c => if c = '\\' then '/' else c)

def lowerName (name : String) : String := String.ofList (lower name.toList)

/-- Whether the small form of a name ends in a suffix. -/
def hasSuffix (suffix name : String) : Bool :=
  suffix.toList.isSuffixOf (lower name.toList)

def dropEnd (count : Nat) (name : String) : String :=
  String.ofList (name.toList.take (name.toList.length - count))

def deviceScriptSuffix : String := ".mcu.js"

def scriptSuffix : String := ".js"

def markupSuffixes : List String := [".html", ".htm"]

def jsonSuffix : String := ".json"

/-- All suffixes of node files, a longer one before one it ends in. -/
def suffixes : List String := [deviceScriptSuffix, scriptSuffix] ++ markupSuffixes ++ [jsonSuffix]

def stem (name : String) : String :=
  match suffixes.find? (hasSuffix · name) with
  | some suffix => dropEnd suffix.length name
  | none => name

def isMarkup (name : String) : Bool := markupSuffixes.any (hasSuffix · name)

/-- The host stub next to a device script; every other path stays as it is. -/
def stubPath (path : String) : String :=
  if hasSuffix deviceScriptSuffix path then
    dropEnd deviceScriptSuffix.length path ++ scriptSuffix
  else path

end TwinNode.Path
