/-
A tree of files and directories.

* `FileFault` — why a file cannot be read, written or made, and its wording;
* `FileTree.find` — the place that a path leads to;
* `FileTree.read`, `FileTree.write` — the contents of a file;
* `FileTree.makeDirectory` — a directory inside another.

A place is the list of names from the root. A path leads through directories only: what lies before
its last step has to exist, but its end need not.
-/
import Ambient.Files.Path

namespace Ambient

/-- Why a file or a directory cannot be reached. -/
inductive FileFault where
  | notFound
  | alreadyThere
  | notDirectory
  | isDirectory
  | nameTooLong
  /-- The path holds the character that ends texts elsewhere. -/
  | nullInPath
  | invalidText
  | other (message : String)
  deriving DecidableEq, Repr

/-- The wording. -/
def FileFault.message : FileFault → String
  | .notFound => "No such file or directory (os error 2)"
  | .alreadyThere => "File exists (os error 17)"
  | .notDirectory => "Not a directory (os error 20)"
  | .isDirectory => "Is a directory (os error 21)"
  | .nameTooLong => "File name too long (os error 36)"
  | .nullInPath => "file name contained an unexpected NUL byte"
  | .invalidText => "stream did not contain valid UTF-8"
  | .other message => message

/-- What stands at a place. -/
inductive FileNode where
  | directory
  | file (contents : String)
  deriving DecidableEq, Repr

/-- The names from the root to a place. -/
abbrev Place := List String

/-- Files and directories. -/
structure FileTree where
  /-- What stands where, without the root itself. -/
  nodes : List (Place × FileNode) := []
  /-- Where relative paths start. -/
  here : Place := []
  deriving Repr

namespace FileTree

/-! ### Places -/

/-- What stands at a place. -/
def node? (t : FileTree) (place : Place) : Option FileNode :=
  if place = [] then some .directory else t.nodes.lookup place

/-- The tree with a node at a place. -/
def set (t : FileTree) (place : Place) (node : FileNode) : FileTree :=
  { t with nodes := (place, node) :: t.nodes.filter (·.1 ≠ place) }

@[simp]
theorem node?_root (t : FileTree) : t.node? [] = some .directory := by
  simp [node?]

/-- What has been put at a place stands there. -/
theorem node?_set_self (t : FileTree) {place : Place} (h : place ≠ []) (node : FileNode) :
    (t.set place node).node? place = some node := by
  simp [node?, set, h]

/-- Leaving out a place does not change what is found at another. -/
theorem lookup_filter_of_ne {place other : Place} (h : other ≠ place)
    (nodes : List (Place × FileNode)) :
    (nodes.filter (·.1 ≠ place)).lookup other = nodes.lookup other := by
  induction nodes with
  | nil => rfl
  | cons entry nodes ih =>
    obtain ⟨at_, node⟩ := entry
    rw [List.filter_cons, List.lookup_cons]
    by_cases hp : at_ = place
    · subst hp
      simpa [beq_false_of_ne h] using ih
    · simp only [ne_eq, hp, not_false_eq_true, decide_true, if_true, List.lookup_cons]
      cases other == at_
      · exact ih
      · rfl

/-- What stands at other places stays. -/
theorem node?_set_of_ne (t : FileTree) {place other : Place} (h : other ≠ place)
    (node : FileNode) : (t.set place node).node? other = t.node? other := by
  unfold node? set
  split
  · rfl
  · rw [List.lookup_cons, beq_false_of_ne h]
    exact lookup_filter_of_ne h t.nodes

/-- The most bytes that a name has. -/
def maxNameLength : Nat := 255

/-- The most bytes that a path has. -/
def maxPathLength : Nat := 4095

/-- The place that some steps lead to. Every place before the last is a directory. -/
def follow (t : FileTree) (place : Place) : List String → Except FileFault Place
  | [] => .ok place
  | step :: steps =>
    match t.node? place with
    | none => .error .notFound
    | some (.file _) => .error .notDirectory
    | some .directory =>
      -- The root is above itself.
      if step = "." then t.follow place steps
      else if step = ".." then t.follow place.dropLast steps
      else if maxNameLength < step.utf8ByteSize then .error .nameTooLong
      else t.follow (place ++ [step]) steps

/-- The place that a path leads to. -/
def find (t : FileTree) (p : Path) : Except FileFault Place :=
  t.follow (if p.isAbsolute then [] else t.here) p.steps

/-- The path that a text writes, unless it cannot be one. -/
def path (text : String) : Except FileFault Path :=
  if text = "" then .error .notFound
  else if '\x00' ∈ text.toList then .error .nullInPath
  else if maxPathLength < text.utf8ByteSize then .error .nameTooLong
  else .ok (.ofText text)

/-! ### Files -/

/-- The contents of a file. -/
def read (t : FileTree) (text : String) : Except FileFault String := do
  let p ← path text
  match t.node? (← t.find p) with
  | none => throw .notFound
  | some .directory => throw .isDirectory
  | some (.file contents) => if p.endsInSlash then throw .notDirectory else return contents

/-- The tree with the contents in a file, which need not have existed. -/
def write (t : FileTree) (text contents : String) : Except FileFault FileTree := do
  let p ← path text
  let place ← t.find p
  if p.endsInSlash || t.node? place = some .directory then throw .isDirectory
  else return t.set place (.file contents)

/-! ### Directories -/

/-- Whether the path leads to a directory. -/
def isDirectory (t : FileTree) (text : String) : Bool :=
  match path text >>= t.find with
  | .ok place => t.node? place = some .directory
  -- What cannot be reached is no directory, for whatever reason.
  | .error _ => false

/-- The tree with a new directory, inside one that exists. -/
def makeDirectory (t : FileTree) (text : String) : Except FileFault FileTree := do
  let place ← t.find (← path text)
  if (t.node? place).isSome then throw .alreadyThere
  else return t.set place .directory

end FileTree

end Ambient
