/-
The program.

`main` reads the command line, carries out the request on the files of the machine and ends with
its code. All decisions are those of `Ambient.Command`.
-/
import Ambient.Command.Run

namespace Ambient

open Command

/-- Why an operation on files failed, by the code of the machine, which may be negated. -/
def FileFault.ofCode (code : UInt32) (message : String) : FileFault :=
  match code.toInt32.toInt.natAbs with
  | 2 => .notFound
  | 17 => .alreadyThere
  | 20 => .notDirectory
  | 21 => .isDirectory
  | 36 => .nameTooLong
  | _ => .other message

/-- Why an operation on files failed. -/
def FileFault.ofError (e : IO.Error) : FileFault :=
  match e with
  | .noFileOrDirectory _ code _ => .ofCode code (toString e)
  | .alreadyExists _ code _ => .ofCode code (toString e)
  | .inappropriateType _ code _ => .ofCode code (toString e)
  | .invalidArgument _ code _ => .ofCode code (toString e)
  | e => .other (toString e)

/-- The outcome of an operation on files. -/
def outcome {α : Type} (action : IO α) : IO (Except FileFault α) := do
  try return .ok (← action)
  catch e => return .error (.ofError e)

/-- Bytes as text. -/
def textOfBytes (bytes : ByteArray) : Except FileFault String :=
  match String.fromUTF8? bytes with
  | some text => .ok text
  | none => .error .invalidText

/-- Whether a path leads to a directory: that can be opened but has no contents to read. -/
def leadsToDirectory (path : String) : IO Bool := do
  let first ← outcome (do (← IO.FS.Handle.mk path .read).read 1)
  return match first with
  | .error .isDirectory => true
  | _ => false

/-- The machine. -/
def machine : Host IO where
  readInput := do
    return (← outcome (do (← IO.getStdin).readBinToEnd)).bind textOfBytes
  readFile path := do
    return (← outcome (IO.FS.readBinFile path)).bind textOfBytes
  writeFile path contents := outcome (IO.FS.writeFile path contents)
  isDirectory := leadsToDirectory
  makeDirectory path := outcome (IO.FS.createDir path)

/-- The lines on how the program is used. -/
def usageLines : List String :=
  ["Usage: ambient generate [MODEL] [-o DIR] [options]",
   "       ambient dump [MODEL] [-o FILE] [--compact] [options]",
   "",
   "MODEL is read from the standard input if it is left out or a hyphen.",
   "",
   "Options:",
   "  --index                    also write index.d.ts",
   "  --emit-read-only           getters without a setter are readonly properties",
   "  --exclude-methods NAMES    members to leave out, with commas between them",
   "  --no-getters-and-setters   accessors are plain methods",
   "  --group-by-module          one file for each module",
   "  --flatten-types            copy ancestors into each type",
   "  --force-parent-javadocs    copy documentation to overriding methods",
   "  --method-whitelist REGEX   which methods may be copied",
   "  --root-types TYPES         the types to declare, with all they lead to"]

/-- How the program is used. -/
def usage : String :=
  unlines usageLines

end Ambient

open Ambient Command in
/-- Reads the arguments, runs the command and reports how it ended. -/
def main (args : List String) : IO UInt32 := do
  match Request.read args with
  | .error .help =>
    (← IO.getStdout).putStr usage
    return Stop.help.exitCode
  | .error stop =>
    (← IO.getStderr).putStr usage
    return stop.exitCode
  | .ok request =>
    let ending := Ending.ofResult (← (request.run machine).run)
    (← IO.getStdout).putStr ending.output
    (← IO.getStderr).putStr ending.complaint
    return ending.exitCode
