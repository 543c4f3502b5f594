/-
Where a program runs.

A `Host` gives a program its input and lets it read and write files, each with the possibility to
fail.

* `Host.makeDirectories` — makes a directory with those around it;
* `FileTree.host` — the host whose files are a tree: there, what a program does to the files is the
  change of the state.
-/
import Ambient.Files.Tree

namespace Ambient

/-- What a program can do to files, and its input. -/
structure Host (m : Type → Type) where
  readInput : m (Except FileFault String)
  readFile : (path : String) → m (Except FileFault String)
  writeFile : (path contents : String) → m (Except FileFault Unit)
  isDirectory : (path : String) → m Bool
  /-- Makes a directory inside one that exists. -/
  makeDirectory : (path : String) → m (Except FileFault Unit)

namespace Host

variable {m : Type → Type} [Monad m]

/-- Makes the first of some directories, each of them inside the one that follows it, and the later
ones where they are missing. -/
def ensureFirst (h : Host m) : List String → m (Except FileFault Unit)
  | [] => return .ok ()
  | path :: around => do
    match ← h.makeDirectory path with
    | .ok _ => return .ok ()
    | .error .notFound =>
      match ← h.ensureFirst around with
      | .error e => return .error e
      | .ok _ => if ← h.isDirectory path then return .ok () else h.makeDirectory path
    | .error e => return if ← h.isDirectory path then .ok () else .error e

/-- Makes a directory and those around it, as far as they are missing. -/
def makeDirectories (h : Host m) (path : String) : m (Except FileFault Unit) :=
  h.ensureFirst (Path.directoriesTo path)

end Host

namespace FileTree

/-- Applies a change that may fail; a failed one leaves the tree as it is. -/
def change (f : FileTree → Except FileFault FileTree) : StateM FileTree (Except FileFault Unit) :=
  fun t =>
    match f t with
    | .ok t' => (.ok (), t')
    | .error e => (.error e, t)

/-- The host whose files are a tree, with the given input. -/
def host (input : String) : Host (StateM FileTree) where
  readInput := pure (.ok input)
  readFile path := fun t => (t.read path, t)
  writeFile path contents := change (·.write path contents)
  isDirectory path := fun t => (t.isDirectory path, t)
  makeDirectory path := change (·.makeDirectory path)

end FileTree

end Ambient
