/-
Paths of files and directories.

* `Path.ofText`, `Path.text` — paths from and to texts;
* `Path.join` — a name inside a directory;
* `Path.parents` — the paths of the directories around, the nearest first;
* `Path.directoriesTo` — the directories that have to be there.
-/
import Ambient.Text.Split

namespace Ambient

/-- A path: where it starts, the names it follows, and whether it insists on a directory. -/
structure Path where
  /-- Whether it starts at the root. -/
  isAbsolute : Bool
  steps : List String
  /-- Whether a slash ends it. -/
  endsInSlash : Bool
  deriving DecidableEq, Repr

namespace Path

/-- The path that a text writes. -/
def ofText (text : String) : Path where
  isAbsolute := text.toList.head? = some '/'
  steps := ((Text.splitOn '/' text.toList).filter (!·.isEmpty)).map String.ofList
  endsInSlash := text.toList.getLast? = some '/'

/-- A text that writes the path. -/
def text (p : Path) : String :=
  (if p.isAbsolute then "/" else "") ++ "/".intercalate p.steps ++ if p.endsInSlash then "/" else ""

/-- The text of the path of `name` inside the directory `dir`. The empty text stands for where
relative paths start. -/
def join (dir name : String) : String :=
  if name.toList.head? = some '/' then name
  else if dir = "" ∨ dir.toList.getLast? = some '/' then dir ++ name
  else dir ++ "/" ++ name

/-- The steps without those that stay in place, except one at the start of a relative path. -/
def essentialSteps (p : Path) : List String :=
  match p.isAbsolute, p.steps with
  | false, first :: rest => first :: rest.filter (· ≠ ".")
  | _, steps => steps.filter (· ≠ ".")

/-- All but the last of some steps, then all but the last two, and so on, while any are left. -/
def shortenings : List String → List (List String)
  | [] => []
  | step :: steps =>
    match shortenings steps with
    | [] => if steps.isEmpty then [] else [[step]]
    | shorter => shorter.map (step :: ·) ++ [[step]]

/-- The paths of the directories around a path, the nearest first. Neither the root is among them
nor the directory that a relative path starts in. -/
def parents (p : Path) : List Path :=
  (shortenings p.essentialSteps).map fun steps => ⟨p.isAbsolute, steps, false⟩

/-- The texts of the paths of a directory and of those around it, the nearest first. The empty text
asks for none. -/
def directoriesTo (dir : String) : List String :=
  if dir = "" then [] else dir :: (ofText dir).parents.map text

end Path

end Ambient
