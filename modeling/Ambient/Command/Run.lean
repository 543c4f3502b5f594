/-
What a request does.

* `Failure` — why a request fails, with its wording;
* `loadCatalogue` — the catalogue of the model in a file or in the input;
* `Generate.run` — writes the declarations and tells the paths that were written;
* `Dump.text`, `Dump.run` — the definitions as JSON;
* `Request.run` — carries out a request; the result goes to the standard output.

Invalid patterns are found before the model is read, and nothing is written unless there is
something to write.
-/
import Ambient.Command.Arguments
import Ambient.Definition.Dump
import Ambient.Files.Host
import Ambient.Generator
import Ambient.Record.OfText

namespace Ambient.Command

/-! ### Failures -/

/-- Why a request fails. -/
inductive Failure where
  | invalidPattern (e : InvalidPattern)
  | unreadableInput (fault : FileFault)
  | unreadable (path : String) (fault : FileFault)
  | malformed (fault : Json.Fault)
  | duplicate (e : DuplicateType)
  | unwritable (path : String) (fault : FileFault)
  deriving DecidableEq, Repr

/-- The wording. -/
def Failure.message : Failure → String
  | .invalidPattern e => e.message
  | .unreadableInput fault => "failed to read stdin: " ++ fault.message
  | .unreadable path fault => "failed to read '" ++ path ++ "': " ++ fault.message
  | .malformed fault => "malformed resolver output: " ++ fault.message
  | .duplicate e => e.message
  | .unwritable path fault => "failed to write '" ++ path ++ "': " ++ fault.message

/-- The result, or the failure for the reason it is not there. -/
def orFail {m : Type → Type} [Monad m] {ε α : Type} (failure : ε → Failure) :
    Except ε α → ExceptT Failure m α
  | .ok a => return a
  | .error e => throw (failure e)

variable {m : Type → Type} [Monad m]

/-! ### Reading the model -/

/-- The text of the model: from a file, or from the input if no file or only a hyphen is given. -/
def modelText (h : Host m) (input : Option String) : ExceptT Failure m String := do
  match input with
  | none | some "-" => orFail .unreadableInput (← h.readInput)
  | some path => orFail (.unreadable path) (← h.readFile path)

/-- The catalogue of the model. -/
def loadCatalogue (h : Host m) (input : Option String) : ExceptT Failure m Catalogue := do
  let text ← modelText h input
  let definitions ← orFail .malformed (Record.parseModel text)
  orFail .duplicate (Catalogue.ofList definitions)

/-! ### Requests -/

/-- Writes units into a directory and gives their paths. -/
def writeUnits (h : Host m) (directory : String) : List OutputUnit → ExceptT Failure m (List String)
  | [] => return []
  | u :: units => do
    let path := Path.join directory u.name
    orFail (.unwritable path) (← h.writeFile path u.contents)
    return path :: (← writeUnits h directory units)

/-- Writes all units and gives their paths. -/
def Generate.run (h : Host m) (g : Generate) : ExceptT Failure m (List String) := do
  let generator ← orFail .invalidPattern (Generator.ofSettings g.settings)
  let catalogue ← loadCatalogue h g.input
  orFail (.unwritable g.directory) (← h.makeDirectories g.directory)
  writeUnits h g.directory (generator.run catalogue)

/-- The transformed definitions as JSON. -/
def Dump.text (h : Host m) (d : Dump) : ExceptT Failure m String := do
  let generator ← orFail .invalidPattern (Generator.ofSettings d.settings)
  let definitions := dumpDefinitions (generator.transform (← loadCatalogue h d.input))
  return (if d.compact then definitions.compact else definitions.indented) ++ "\n"

/-- Writes the transformed definitions to the file that is asked for, else gives them as they are
to go to the standard output. -/
def Dump.run (h : Host m) (d : Dump) : ExceptT Failure m String := do
  let text ← d.text h
  match d.output with
  | none => return text
  | some path =>
    orFail (.unwritable path) (← h.writeFile path text)
    return ""

/-- Carries out a request and gives what goes to the standard output. -/
def Request.run (h : Host m) : Request → ExceptT Failure m String
  | .generate g => do
    discard (g.run h)
    return ""
  | .dump d => d.run h

/-! ### Endings -/

/-- How a program ends. -/
structure Ending where
  exitCode : UInt32
  output : String
  complaint : String
  deriving DecidableEq, Repr

/-- How a request ends. -/
def Ending.ofResult : Except Failure String → Ending
  | .ok output => ⟨0, output, ""⟩
  | .error failure => ⟨1, "", "error: " ++ failure.message ++ "\n"⟩

end Ambient.Command
