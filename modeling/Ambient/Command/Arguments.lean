/-
Command lines.

* `Request` — what a command line asks for: to generate declarations, or to dump the definitions
  they would be generated from;
* `Stop` — why a command line asks for neither;
* `Verb.long?`, `Verb.short?` — the options of each command. Both take all that shapes the output,
  though a dump does not depend on all of it;
* `Options.read` — the options of a command off its words;
* `Request.read` — a request off a command line.

A word with its value is taken up only when the next one is met, so of two faults the one that is
seen without looking at values comes first.
-/
import Ambient.Declaration.Basic
import Ambient.Text.Split

namespace Ambient.Command

/-! ### Requests -/

/-- To write the declarations into a directory. -/
structure Generate where
  /-- The file with the model; the standard input if there is none. -/
  input : Option String := none
  directory : String := "."
  settings : Settings := {}
  deriving DecidableEq, Repr, Inhabited

/-- To write the transformed definitions as JSON. -/
structure Dump where
  /-- The file with the model; the standard input if there is none. -/
  input : Option String := none
  /-- The file to write; the standard output if there is none. -/
  output : Option String := none
  /-- Whether all is written on one line. -/
  compact : Bool := false
  settings : Settings := {}
  deriving DecidableEq, Repr, Inhabited

/-- What a command line asks for. -/
inductive Request where
  | generate (g : Generate)
  | dump (d : Dump)
  deriving DecidableEq, Repr

/-- Why nothing is done. -/
inductive Stop where
  /-- Help is asked for. -/
  | help
  /-- There is no command. -/
  | nothingAsked
  | unknownCommand
  | unknownArgument
  /-- Something that may be given once is given again. -/
  | repeated
  /-- A value is missing or empty. -/
  | badValue
  /-- A value stands where none can. -/
  | surplusValue
  deriving DecidableEq, Repr

/-- The code the program ends with: only a request for help is no failure. -/
def Stop.exitCode : Stop → UInt32
  | .help => 0
  | _ => 2

/-! ### Options -/

/-- What can be given to a command. -/
inductive Argument where
  | input
  | target
  | help
  | index
  | readOnly
  | exclude
  | noAccessors
  | byModule
  | flatten
  | forceDocs
  | whitelist
  | roots
  | compact
  deriving DecidableEq, Repr

/-- What is given with an argument. -/
inductive Takes where
  /-- Nothing; the argument may be given once. -/
  | nothing
  /-- A path that is not empty; the argument may be given once. -/
  | path
  /-- A text. -/
  | text
  /-- Texts with commas between them. -/
  | texts
  deriving DecidableEq, Repr

/-- What each argument is given with. -/
def Argument.takes : Argument → Takes
  | .input | .target => .path
  | .whitelist => .text
  | .exclude | .roots => .texts
  | _ => .nothing

/-- The commands. -/
inductive Verb where
  | generate
  | dump
  deriving DecidableEq, Repr

/-- The long options of both commands. -/
def sharedOptions : List (String × Argument) :=
  [("help", .help), ("index", .index), ("emit-read-only", .readOnly),
   ("exclude-methods", .exclude), ("no-getters-and-setters", .noAccessors),
   ("group-by-module", .byModule), ("flatten-types", .flatten),
   ("force-parent-javadocs", .forceDocs), ("method-whitelist", .whitelist),
   ("root-types", .roots)]

/-- The long options of one command alone. -/
def Verb.ownOptions : Verb → List (String × Argument)
  | .generate => [("out-dir", .target)]
  | .dump => [("output", .target), ("compact", .compact)]

/-- The argument behind a long option. -/
def Verb.long? (v : Verb) (name : String) : Option Argument :=
  (sharedOptions ++ v.ownOptions).lookup name

/-- The argument behind a short option, the same for both commands. -/
def short? : Char → Option Argument
  | 'o' => some .target
  | 'h' => some .help
  | _ => none

/-! ### Words -/

/-- An argument with the texts given for it. -/
structure Given where
  argument : Argument
  texts : List String
  deriving DecidableEq, Repr

/-- What has been read of a command's words. -/
structure Progress where
  /-- What was given, in order. -/
  given : List Given := []
  /-- An argument that has been met but not taken up, with its value as far as that is known. -/
  pending : Option (Argument × Option String) := none
  /-- Whether all further words are inputs. -/
  inputsOnly : Bool := false
  deriving DecidableEq, Repr

namespace Progress

/-- Whether the argument has been taken up. -/
def has (p : Progress) (a : Argument) : Bool :=
  p.given.any (·.argument = a)

/-- The texts given for an argument. -/
def texts (p : Progress) (a : Argument) : List String :=
  (p.given.filter (·.argument = a)).flatMap (·.texts)

/-- Adds what was given for an argument. -/
def add (p : Progress) (a : Argument) (texts : List String) : Progress :=
  { p with given := p.given ++ [⟨a, texts⟩] }

/-- Takes up an argument with its value. -/
def take (p : Progress) (a : Argument) (value : Option String) : Except Stop Progress :=
  if a = .help then .error .help
  else
    match a.takes, value with
    | .nothing, _ => if p.has a then .error .repeated else .ok (p.add a [])
    | _, none => .error .badValue
    | .path, some text =>
      if p.has a then .error .repeated
      else if text.isEmpty then .error .badValue
      else .ok (p.add a [text])
    | .text, some text => .ok (p.add a [text])
    | .texts, some text =>
      .ok (p.add a ((Text.splitOn ',' text.toList).map String.ofList))

/-- Takes up what is pending. -/
def settle (p : Progress) : Except Stop Progress :=
  match p.pending with
  | none => .ok p
  | some (a, value) => { p with pending := none }.take a value

/-- Meets an option, with the value that is attached to it. -/
def meet (p : Progress) (a : Argument) (attached : Option String) : Except Stop Progress :=
  match a.takes, attached with
  | .nothing, some _ => .error .surplusValue
  | .nothing, none => do (← p.settle).take a none
  | _, some text => do (← p.settle).take a (some text)
  | _, none => do return { ← p.settle with pending := some (a, none) }

/-- Meets the short options in one word. One that takes a value takes the rest of the word, if
there is any, where an equals sign may come first. -/
def meetShort (p : Progress) : List Char → Except Stop Progress
  | [] => .ok p
  | c :: cs =>
    match short? c with
    | none => .error .unknownArgument
    | some a =>
      match a.takes with
      | .nothing => do (← p.meet a none).meetShort cs
      | _ =>
        match cs with
        | [] => p.meet a none
        | '=' :: cs => p.meet a (some (String.ofList cs))
        | cs => p.meet a (some (String.ofList cs))

/-- Meets a long option, which may have a value behind an equals sign. -/
def meetLong (v : Verb) (p : Progress) (cs : List Char) : Except Stop Progress :=
  let name := cs.takeWhile (· ≠ '=')
  let attached := match cs.dropWhile (· ≠ '=') with
    | [] => none
    | _ :: text => some (String.ofList text)
  match v.long? (String.ofList name) with
  | none => .error .unknownArgument
  | some a => p.meet a attached

/-- Meets an input, of which there is at most one. -/
def meetInput (p : Progress) (word : String) : Except Stop Progress :=
  if p.has .input || p.pending.any (·.1 = .input) then .error .unknownArgument
  else do return { ← p.settle with pending := some (.input, some word) }

/-- Meets a word: an option if it starts with a hyphen, else the value of the option before it if
that lacks one, else an input. Behind two hyphens there are only inputs. -/
def meetWord (v : Verb) (p : Progress) (word : String) : Except Stop Progress :=
  if p.inputsOnly then p.meetInput word
  else
    match word.toList with
    | ['-', '-'] => .ok { p with inputsOnly := true }
    | '-' :: '-' :: cs => p.meetLong v cs
    | '-' :: c :: cs => p.meetShort (c :: cs)
    | _ =>
      match p.pending with
      | some (a, none) => .ok { p with pending := some (a, some word) }
      | _ => p.meetInput word

/-- What the words of a command give. -/
def ofWords (v : Verb) (words : List String) : Except Stop Progress := do
  (← words.foldlM (meetWord v) {}).settle

/-- The settings that change the definitions. -/
def transformSettings (p : Progress) : Settings where
  flattens := p.has .flatten
  forcesDocs := p.has .forceDocs
  whitelist := p.texts .whitelist
  rootTypes := p.texts .roots

/-- All settings. -/
def settings (p : Progress) : Settings :=
  { p.transformSettings with
    buildsIndex := p.has .index
    marksReadOnly := p.has .readOnly
    excluded := p.texts .exclude
    usesAccessors := !p.has .noAccessors
    groupsByModule := p.has .byModule }

/-- The path given for an argument. -/
def path? (p : Progress) (a : Argument) : Option String :=
  (p.texts a).head?

/-- The request that a command's arguments make. A dump does not depend on what only changes the
text of declarations. -/
def request (p : Progress) : Verb → Request
  | .generate =>
    .generate
      { input := p.path? .input
        directory := (p.path? .target).getD "."
        settings := p.settings }
  | .dump =>
    .dump
      { input := p.path? .input
        output := p.path? .target
        compact := p.has .compact
        settings := p.transformSettings }

end Progress

/-! ### Command lines -/

/-- The words that name a command, and the word that asks for help. -/
def commandWords : List String :=
  ["generate", "dump", "help"]

/-- Why nothing is done for words that ask for help. -/
def stopOfHelp : List String → Stop
  | [] => .help
  | [word] => if word ∈ commandWords then .help else .unknownCommand
  | _ => .unknownCommand

/-- Why nothing is done for words behind two hyphens. -/
def stopOfInputs : List String → Stop
  | [] => .nothingAsked
  | word :: _ => if word ∈ commandWords then .unknownArgument else .unknownCommand

/-- Why nothing is done for a word that is no command. -/
def stopOfWord (cs : List Char) : Stop :=
  match cs with
  | '-' :: '-' :: cs =>
    if cs = "help".toList then .help
    else if cs.takeWhile (· ≠ '=') = "help".toList then .surplusValue
    else .unknownArgument
  | '-' :: 'h' :: _ => .help
  | '-' :: _ :: _ => .unknownArgument
  | _ => .unknownCommand

/-- What a command line asks for. -/
def Request.read : List String → Except Stop Request
  | [] => .error .nothingAsked
  | "generate" :: words => do return (← Progress.ofWords .generate words).request .generate
  | "dump" :: words => do return (← Progress.ofWords .dump words).request .dump
  | "help" :: words => .error (stopOfHelp words)
  | "--" :: words => .error (stopOfInputs words)
  | word :: _ => .error (stopOfWord word.toList)

end Ambient.Command
