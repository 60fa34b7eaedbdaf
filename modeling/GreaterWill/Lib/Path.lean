import Mathlib.Data.List.Basic

/-!
# Unix paths

Paths are strings. Two paths are compared by their components, as `std::path::Path` does:
repeated separators, a trailing separator and `.` components other than a leading one do not
count.
-/

namespace GreaterWill

/-- `std::path::PathBuf`, by its text. -/
abbrev PathBuf := String

namespace PathBuf

inductive Component where
  | rootDir
  | curDir
  | parentDir
  | normal (name : String)
  deriving DecidableEq, Repr

/-- The pieces of a text between its slashes. -/
def splitSlash : List Char → List (List Char)
  | [] => [[]]
  | c :: cs =>
    match c, splitSlash cs with
    | '/', pieces => [] :: pieces
    | c, [] => [[c]]
    | c, piece :: pieces => (c :: piece) :: pieces

def isAbsolute (p : PathBuf) : Bool := p.toList.head? == some '/'

private def toComponent : List Char → Component
  | ['.', '.'] => .parentDir
  | name => .normal (String.ofList name)

/-- `Path::components`. -/
def components (p : PathBuf) : List Component :=
  let pieces := splitSlash p.toList
  let rest := (pieces.filter fun s => s ≠ [] ∧ s ≠ ['.']).map toComponent
  if isAbsolute p then .rootDir :: rest
  else if pieces.head? = some ['.'] then .curDir :: rest
  else rest

/-- `Path::eq`. -/
def eqPath (p q : PathBuf) : Bool := components p == components q

/-- `Path::file_name`: the last component, when it is a name. -/
def fileName (p : PathBuf) : Option String :=
  match (components p).getLast? with
  | some (.normal name) => some name
  | _ => none

/-- The text of a component other than the root. -/
def Component.text : Component → String
  | rootDir => ""
  | curDir => "."
  | parentDir => ".."
  | normal name => name

/-- The path with the given components. -/
def ofComponents : List Component → PathBuf
  | .rootDir :: rest => "/" ++ "/".intercalate (rest.map (·.text))
  | cs => "/".intercalate (cs.map (·.text))

/-- `Path::parent`: the path without its last component, which is not the root. -/
def parent (p : PathBuf) : Option PathBuf :=
  match (components p).getLast? with
  | none | some .rootDir => none
  | some _ => some (ofComponents (components p).dropLast)

/-- `Path::join`. -/
def join (dir p : PathBuf) : PathBuf :=
  if isAbsolute p then p
  else if dir = "" ∨ dir.toList.getLast? = some '/' then dir ++ p
  else dir ++ "/" ++ p

/-- `Path::file_stem` of a file name: up to its last dot, unless that is its first character. -/
def fileStem (name : String) : String :=
  match name.toList.reverse.dropWhile (· ≠ '.') with
  | [] | ['.'] => name
  | _ :: stem => String.ofList stem.reverse

/-- `Path::with_extension`, for an extension that is not empty. -/
def withExtension (p : PathBuf) (extension : String) : PathBuf :=
  match fileName p, parent p with
  | some name, some dir => join dir (fileStem name ++ "." ++ extension)
  | _, _ => p

/-- Different relative paths are different under a directory. -/
theorem join_inj {dir p q : PathBuf} (hp : isAbsolute p = false) (hq : isAbsolute q = false) :
    join dir p = join dir q ↔ p = q := by
  unfold join
  rw [hp, hq, if_neg Bool.false_ne_true, if_neg Bool.false_ne_true]
  split
  · exact String.append_right_inj dir
  · exact String.append_right_inj (dir ++ "/")

/-- A path joined to a directory begins with the directory, unless it is absolute. -/
theorem exists_join_eq (dir : PathBuf) {p : PathBuf} (hp : isAbsolute p = false) :
    ∃ rest, join dir p = dir ++ rest := by
  rw [join, hp, if_neg Bool.false_ne_true]
  split
  · exact ⟨p, rfl⟩
  · exact ⟨"/" ++ p, String.append_assoc⟩

example : eqPath "/tmp//repo/./a/" "/tmp/repo/a" = true := by decide
example : fileName (join "/tmp/repo" "plans/a.md") = some "a.md" := by decide
example : parent "/repo/.rune/arc/arc-1/checkpoint.json" = some "/repo/.rune/arc/arc-1" := by
  decide
example : fileName "/tmp/.." = none := by decide

end PathBuf
end GreaterWill
