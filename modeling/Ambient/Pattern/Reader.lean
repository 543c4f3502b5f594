/-
Patterns read from their text.

`Expr.read` reads a whole pattern; there is none if the text is not one. The reader goes through the
text once. What it needs to know from before is in `State`: whether blanks and comments are passed
over, and the names that groups have been given.

The escapes, sets, repetitions and flags each have a reader of their own that returns the rest of
the text.
-/
import Ambient.Pattern.Expr
import Ambient.Pattern.NameChars
import Ambient.Text.Split

namespace Ambient.Pattern

open Text (isBlank)

/-! ### Blanks -/

/-- The text after a comment, which goes up to the end of the line. -/
def skipComment : List Char → List Char
  | [] => []
  | c :: cs => if c = '\n' then cs else skipComment cs

theorem skipComment_length_le (cs : List Char) : (skipComment cs).length ≤ cs.length := by
  induction cs with
  | nil => exact Nat.le_refl _
  | cons c cs ih =>
    rw [skipComment]
    split
    · simp
    · simp only [List.length_cons]
      omega

/-- The text from the next character that counts on. -/
def skipSpace (ignoreSpace : Bool) : List Char → List Char
  | [] => []
  | c :: cs =>
    if !ignoreSpace then c :: cs
    else if isBlank c then skipSpace ignoreSpace cs
    else if c = '#' then
      have := skipComment_length_le cs
      skipSpace ignoreSpace (skipComment cs)
    else c :: cs
termination_by cs => cs.length

/-! ### Numbers -/

/-- The digits a text begins with, and the rest of it. -/
def readDigits (ignoreSpace : Bool) : (limit : Nat) → List Char → List Char × List Char
  | 0, cs => ([], cs)
  | limit + 1, cs =>
    match cs with
    | [] => ([], [])
    | c :: cs =>
      if c.isDigit then
        let (ds, rest) := readDigits ignoreSpace limit (skipSpace ignoreSpace cs)
        (c :: ds, rest)
      else ([], c :: cs)

/-- A number of 32 bits between blanks. Without digits there is none, which is not a fault yet. -/
def readCount (ignoreSpace : Bool) (cs : List Char) : Option (Option Nat × List Char) :=
  let (ds, rest) := readDigits ignoreSpace (cs.length + 1) (cs.dropWhile isBlank)
  let rest := rest.dropWhile isBlank
  let n := ds.foldl (fun n d => n * 10 + (d.toNat - '0'.toNat)) 0
  if ds.isEmpty then some (none, rest)
  else if n < 4294967296 then some (some n, rest)
  else none

/-- The value of a hexadecimal digit. -/
def hexDigit? (c : Char) : Option Nat :=
  if c.isDigit then some (c.toNat - '0'.toNat)
  else if 'a' ≤ c ∧ c ≤ 'f' then some (c.toNat - 'a'.toNat + 10)
  else if 'A' ≤ c ∧ c ≤ 'F' then some (c.toNat - 'A'.toNat + 10)
  else none

/-- The character with a code point, if there is one. -/
def charOfCode? (n : Nat) : Option Char :=
  if n.isValidChar then some (Char.ofNat n) else none

/-- So many hexadecimal digits, after those that make up `n`. -/
def readHexDigits (ignoreSpace : Bool) (n : Nat) : Nat → List Char → Option (Nat × List Char)
  | 0, cs => some (n, cs)
  | k + 1, cs =>
    match skipSpace ignoreSpace cs with
    | [] => none
    | c :: cs => do readHexDigits ignoreSpace (n * 16 + (← hexDigit? c)) k cs

/-- The hexadecimal digits up to a closing brace, after those that make up `n`. -/
def readHexBraced (ignoreSpace : Bool) : (limit : Nat) → (n? : Option Nat) → List Char →
    Option (Nat × List Char)
  | 0, _, _ => none
  | limit + 1, n?, cs =>
    match skipSpace ignoreSpace cs with
    | [] => none
    | '}' :: cs => do return (← n?, cs)
    | c :: cs => do
      readHexBraced ignoreSpace limit (some (n?.getD 0 * 16 + (← hexDigit? c))) cs

/-- A character by its number, after the letter that says how many digits it has. -/
def readHex (ignoreSpace : Bool) (digits : Nat) (cs : List Char) :
    Option (Literal × List Char) :=
  match skipSpace ignoreSpace cs with
  | [] => none
  | '{' :: cs => do
    let (n, cs) ← readHexBraced ignoreSpace (cs.length + 1) none cs
    return (⟨← charOfCode? n, false⟩, cs)
  | cs => do
    let (n, cs) ← readHexDigits ignoreSpace 0 digits cs
    return (⟨← charOfCode? n, digits = 2⟩, cs)

/-! ### Escapes -/

/-- A single thing outside of brackets or inside them. -/
inductive Atom where
  | literal (l : Literal)
  | shorthand (s : Shorthand) (isNegated : Bool)
  | property (p : PropertyName) (isNegated : Bool)
  | assertion (a : Assertion)

/-- The characters that have a meaning of their own somewhere. -/
def metaChars : List Char :=
  "\\.+*?()|[]\x7b\x7d^$#&-~".toList

/-- Whether a backslash before the character leaves it standing for itself. -/
def isEscapable (c : Char) : Bool :=
  metaChars.contains c || (c.toNat < 0x80 && !c.isAlphanum && c != '<' && c != '>')

/-- The characters that a backslash and a letter stand for. -/
def escapedChars : List (Char × Char) :=
  [('a', '\x07'), ('f', '\x0c'), ('t', '\t'), ('n', '\n'), ('r', '\r'), ('v', '\x0b')]

/-- The conditions and sets that a backslash and a letter stand for. -/
def escapedAtoms : List (Char × Atom) :=
  [('A', .assertion .textStart), ('z', .assertion .textEnd), ('B', .assertion .noBoundary),
   ('<', .assertion .wordStart), ('>', .assertion .wordEnd),
   ('d', .shorthand .digit false), ('D', .shorthand .digit true), ('s', .shorthand .space false),
   ('S', .shorthand .space true), ('w', .shorthand .word false), ('W', .shorthand .word true)]

/-- The boundaries of words that are named between braces. -/
def namedBoundaries : List (String × Assertion) :=
  [("start", .wordStart), ("end", .wordEnd), ("start-half", .halfStart), ("end-half", .halfEnd)]

/-- Whether the name of a boundary may hold the character. -/
def isBoundaryChar (c : Char) : Bool :=
  c.isAlpha || c = '-'

/-- The name of a boundary, and the rest of the text. -/
def readBoundaryName (ignoreSpace : Bool) : (limit : Nat) → List Char → List Char × List Char
  | 0, cs => ([], cs)
  | limit + 1, cs =>
    match cs with
    | [] => ([], [])
    | c :: cs =>
      if isBoundaryChar c then
        let (name, rest) := readBoundaryName ignoreSpace limit (skipSpace ignoreSpace cs)
        (c :: name, rest)
      else ([], c :: cs)

/-- A boundary of words, after `\b`. What stands between braces may be the name of a special one,
or else a number of repetitions. -/
def readBoundary (ignoreSpace : Bool) (cs : List Char) : Option (Atom × List Char) :=
  match cs with
  | '{' :: inner =>
    match skipSpace ignoreSpace inner with
    | [] => none
    | c :: rest =>
      if isBoundaryChar c then
        match readBoundaryName ignoreSpace (rest.length + 1) (c :: rest) with
        | (name, '}' :: rest) => do
          return (.assertion (← namedBoundaries.lookup (String.ofList name)), rest)
        | _ => none
      else some (.assertion .boundary, cs)
  | cs => some (.assertion .boundary, cs)

/-- The name of a property up to a closing brace. -/
def readPropertyBraced (ignoreSpace : Bool) : (limit : Nat) → List Char →
    Option (List Char × List Char)
  | 0, _ => none
  | limit + 1, cs =>
    match skipSpace ignoreSpace cs with
    | [] => none
    | '}' :: cs => some ([], cs)
    | c :: cs => (readPropertyBraced ignoreSpace limit cs).map fun (name, cs) => (c :: name, cs)

/-- The two sides of the first place where `sep` stands. -/
def splitAtFirst (sep : List Char) : List Char → Option (List Char × List Char)
  | [] => none
  | c :: cs =>
    match Text.afterPrefix sep (c :: cs) with
    | some rest => some ([], rest)
    | none => (splitAtFirst sep cs).map fun (before, after) => (c :: before, after)

/-- The property with a name, and whether it is written as not having the value. -/
def propertyOf (name : List Char) : PropertyName × Bool :=
  let named (p : List Char × List Char) : PropertyName :=
    .withValue (String.ofList p.1) (String.ofList p.2)
  match splitAtFirst ['!', '='] name with
  | some p => (named p, true)
  | none =>
    match (splitAtFirst [':'] name).orElse fun _ => splitAtFirst ['='] name with
    | some p => (named p, false)
    | none => (.alone (String.ofList name), false)

/-- A property, after the letter that says whether it is negated. Its name stands between braces or
is a single letter. -/
def readProperty (ignoreSpace isNegated : Bool) (cs : List Char) : Option (Atom × List Char) :=
  match skipSpace ignoreSpace cs with
  | [] => none
  | '{' :: cs => do
    let (name, cs) ← readPropertyBraced ignoreSpace (cs.length + 1) cs
    let (p, isOther) := propertyOf name
    return (.property p (isNegated != isOther), cs)
  | c :: cs =>
    if c = '\\' then none
    else some (.property (.alone (String.singleton c)) isNegated, skipSpace ignoreSpace cs)

/-- An escape, after the backslash. -/
def readEscape (ignoreSpace : Bool) : List Char → Option (Atom × List Char)
  | [] => none
  | c :: cs =>
    if c = 'x' || c = 'u' || c = 'U' then do
      let digits := if c = 'x' then 2 else if c = 'u' then 4 else 8
      let (l, cs) ← readHex ignoreSpace digits cs
      return (.literal l, skipSpace ignoreSpace cs)
    else if c = 'p' || c = 'P' then readProperty ignoreSpace (c = 'P') cs
    else if c = 'b' then readBoundary ignoreSpace cs
    else if isEscapable c then some (.literal ⟨c, false⟩, cs)
    else
      match escapedChars.lookup c with
      | some d => some (.literal ⟨d, false⟩, cs)
      | none => (escapedAtoms.lookup c).map fun a => (a, cs)

/-! ### Sets -/

/-- A named set of ASCII such as `[:alpha:]`, after the opening bracket. -/
def readNamedSet : List Char → Option (SetItem × List Char)
  | ':' :: cs =>
    let (isNegated, cs) := match cs with | '^' :: cs => (true, cs) | cs => (false, cs)
    let name := cs.takeWhile (· ≠ ':')
    match cs.dropWhile (· ≠ ':') with
    | ':' :: ']' :: rest => do
      return (.named isNegated (← CharSet.asciiNamed.lookup (String.ofList name)), rest)
    | _ => none
  | _ => none

/-- The start of a set, after the opening bracket: whether it is negated, and the literals that
could not stand anywhere else. -/
def readSetStart (ignoreSpace : Bool) (cs : List Char) : Bool × List SetItem × List Char :=
  let cs := skipSpace ignoreSpace cs
  let (isNegated, cs) :=
    match cs with
    | '^' :: cs => (true, skipSpace ignoreSpace cs)
    | cs => (false, cs)
  let (dashes, cs) := readDashes (cs.length + 1) cs
  -- A bracket that closes nothing yet stands for itself.
  match dashes, cs with
  | [], ']' :: cs => (isNegated, [.literal ⟨']', false⟩], skipSpace ignoreSpace cs)
  | dashes, cs => (isNegated, dashes, cs)
where
  /-- The dashes a set begins with. -/
  readDashes : (limit : Nat) → List Char → List SetItem × List Char
    | limit + 1, '-' :: cs =>
      let (dashes, rest) := readDashes limit (skipSpace ignoreSpace cs)
      (.literal ⟨'-', false⟩ :: dashes, rest)
    | _, cs => ([], cs)

/-- One character or escape of a set. -/
def readSetAtom (ignoreSpace : Bool) : List Char → Option (Atom × List Char)
  | [] => none
  | '\\' :: cs => readEscape ignoreSpace cs
  | c :: cs => some (.literal ⟨c, false⟩, cs)

/-- An atom as an item of a set. -/
def Atom.toSetItem : Atom → Option SetItem
  | .literal l => some (.literal l)
  | .shorthand s isNegated => some (.shorthand s isNegated)
  | .property p isNegated => some (.property p isNegated)
  | .assertion _ => none

/-- The character that decides whether a dash makes a range, from the text after the dash. Blanks
and the sign of a comment are passed over, but not what the comment says; where nothing else
follows it is the one directly after the dash. -/
def charAfterDash (ignoreSpace : Bool) (cs : List Char) : Option Char :=
  let decisive :=
    match cs.dropWhile isBlank with
    | '#' :: cs => cs.dropWhile isBlank
    | cs => cs
  if ignoreSpace then decisive.head?.or cs.head? else cs.head?

/-- A range, or a single character or escape. A dash before a closing bracket or another dash
stands for itself. -/
def readSetRange (ignoreSpace : Bool) (cs : List Char) : Option (SetItem × List Char) := do
  let (first, cs) ← readSetAtom ignoreSpace cs
  match skipSpace ignoreSpace cs with
  | [] => none
  | '-' :: rest =>
    let next := charAfterDash ignoreSpace rest
    -- The dash stays in the text: it is an item, or one half of an operator.
    if next = some ']' || next = some '-' then return (← first.toSetItem, '-' :: rest)
    else do
      let (last, cs) ← readSetAtom ignoreSpace (skipSpace ignoreSpace rest)
      match first, last with
      | .literal a, .literal b => if a.char ≤ b.char then return (.range a b, cs) else none
      | _, _ => none
  | cs => return (← first.toSetItem, cs)

/-- A set under construction: what stands before the last operator, and the items after it. -/
structure OpenSet where
  before : Option (SetExpr × SetOp) := none
  /-- The latest first. -/
  items : List SetItem := []

/-- The set made of all that has been read. -/
def OpenSet.close (s : OpenSet) : SetExpr :=
  match s.before with
  | some (lhs, o) => .op o lhs (.union s.items.reverse)
  | none => .union s.items.reverse

/-- The operator that the text begins with, written as two equal characters. -/
def readSetOp : List Char → Option (SetOp × List Char)
  | '&' :: '&' :: cs => some (.inter, cs)
  | '-' :: '-' :: cs => some (.diff, cs)
  | '~' :: '~' :: cs => some (.symmDiff, cs)
  | _ => none

/-- The rest of a set up to its closing bracket, in a text with less than `limit` parts. -/
def readSetRest (ignoreSpace : Bool) : (limit : Nat) → OpenSet → List Char →
    Option (SetExpr × List Char)
  | 0, _, _ => none
  | limit + 1, s, cs =>
    match skipSpace ignoreSpace cs with
    | [] => none
    | ']' :: cs => some (s.close, cs)
    | '[' :: cs =>
      -- What looks like a named set and is none is a set in brackets.
      match readNamedSet cs with
      | some (item, cs) => readSetRest ignoreSpace limit { s with items := item :: s.items } cs
      | none =>
        let (isNegated, items, cs) := readSetStart ignoreSpace cs
        match readSetRest ignoreSpace limit { items := items.reverse } cs with
        | some (set, cs) =>
          readSetRest ignoreSpace limit { s with items := .bracketed isNegated set :: s.items } cs
        | none => none
    | cs =>
      match readSetOp cs with
      | some (o, cs) => readSetRest ignoreSpace limit { before := some (s.close, o) } cs
      | none =>
        match readSetRange ignoreSpace cs with
        | some (item, cs) => readSetRest ignoreSpace limit { s with items := item :: s.items } cs
        | none => none

/-- A set, after its opening bracket. -/
def readSet (ignoreSpace : Bool) (cs : List Char) : Option (Expr × List Char) := do
  let (isNegated, items, rest) := readSetStart ignoreSpace cs
  let (set, rest) ← readSetRest ignoreSpace (cs.length + 1) { items := items.reverse } rest
  return (.set isNegated set, rest)

/-! ### Repetitions -/

/-- The bounds, and what follows them; a question mark there belongs to them. -/
def Bounds.withLaziness (b : Bounds) : List Char → Bounds × List Char
  | '?' :: cs => ({ b with isLazy := true }, cs)
  | cs => (b, cs)

/-- The upper bound of a counted repetition, after the lower one. -/
def readMax (ignoreSpace : Bool) (min : Nat) (cs : List Char) :
    Option (Option Nat × List Char) :=
  match cs with
  | ',' :: cs =>
    match skipSpace ignoreSpace cs with
    | '}' :: cs => some (none, '}' :: cs)
    | cs => do
      let (max?, cs) ← readCount ignoreSpace cs
      return (some (← max?), cs)
  | cs => some (some min, cs)

/-- The bounds of a counted repetition, after the opening brace. -/
def readBounds (ignoreSpace : Bool) (cs : List Char) : Option (Bounds × List Char) := do
  let (min?, cs) ← readCount ignoreSpace (skipSpace ignoreSpace cs)
  let min ← min?
  match ← readMax ignoreSpace min cs with
  | (max, '}' :: cs) =>
    if max.all (min ≤ ·) then return Bounds.withLaziness { min, max } (skipSpace ignoreSpace cs)
    else none
  | _ => none

/-- A repetition, of which the text begins with the operator. -/
def readRepetition (ignoreSpace : Bool) : List Char → Option (Bounds × List Char)
  | '?' :: cs => some (Bounds.optional.withLaziness cs)
  | '*' :: cs => some (Bounds.many.withLaziness cs)
  | '+' :: cs => some (Bounds.once.withLaziness cs)
  | '{' :: cs => readBounds ignoreSpace cs
  | _ => none

/-! ### Groups -/

/-- The flag with a letter. -/
def flagOfChar? : Char → Option Flag
  | 'i' => some .caseInsensitive
  | 'm' => some .multiLine
  | 's' => some .dotMatchesNewLine
  | 'U' => some .swapGreed
  | 'u' => some .unicode
  | 'R' => some .crlf
  | 'x' => some .ignoreSpace
  | _ => none

/-- Flags up to a colon or a closing parenthesis, after some; a dash clears those that follow it.
No flag is mentioned twice, and a dash is not the last. -/
def readFlags (changes : FlagChanges) (isNegated isDangling : Bool) :
    List Char → Option (FlagChanges × List Char)
  | [] => none
  | c :: cs =>
    if c = ':' || c = ')' then
      if isDangling then none else some (changes, c :: cs)
    else if c = '-' then
      if isNegated then none else readFlags changes true true cs
    else do
      let f ← flagOfChar? c
      if (changes.find f).isSome then none
      else readFlags ((f, !isNegated) :: changes) isNegated false cs

/-- What an opening parenthesis begins. -/
inductive Opening where
  /-- Flags for the rest of the group around them. -/
  | flags (changes : FlagChanges)
  /-- A group with flags of its own. -/
  | group (changes : FlagChanges)
  /-- A group whose match is kept, under a name if that is given. -/
  | capture (name? : Option String)

/-- The name of a group up to the closing angle bracket. -/
def readGroupName (cs : List Char) : Option (String × List Char) :=
  let name := cs.takeWhile (· ≠ '>')
  match name, cs.dropWhile (· ≠ '>') with
  | c :: rest, '>' :: cs =>
    if isNameChar true c && rest.all (isNameChar false) then some (String.ofList name, cs) else none
  | _, _ => none

/-- The start of a group, after the opening parenthesis. -/
def readOpening (ignoreSpace : Bool) (cs : List Char) : Option (Opening × List Char) :=
  let cs := skipSpace ignoreSpace cs
  let isLookAround := ["?=", "?!", "?<=", "?<!"].any fun s => s.toList.isPrefixOf cs
  if isLookAround then none
  else
    match (Text.afterPrefix "?P<".toList cs).orElse fun _ => Text.afterPrefix "?<".toList cs with
    | some cs => (readGroupName cs).map fun (name, cs) => (.capture (some name), cs)
    | none =>
      match cs with
      | '?' :: cs => do
        match ← readFlags [] false false cs with
        | (changes, ')' :: cs) => if changes.isEmpty then none else some (.flags changes, cs)
        | (changes, _ :: cs) => some (.group changes, cs)
        | (_, []) => none
      | cs => some (.capture none, cs)

/-! ### Expressions -/

/-- What is known from the text before. -/
structure State where
  ignoreSpace : Bool := false
  names : List String := []

/-- A group under construction. -/
structure OpenGroup where
  /-- The alternatives before the current one, the latest first. -/
  alternatives : List Expr := []
  /-- The parts of the current one, the latest first. -/
  parts : List Expr := []

namespace OpenGroup

/-- The group with one more part. -/
def push (g : OpenGroup) (e : Expr) : OpenGroup :=
  { g with parts := e :: g.parts }

/-- The group with a new alternative. -/
def next (g : OpenGroup) : OpenGroup :=
  { alternatives := .ofSequence g.parts.reverse :: g.alternatives }

/-- The expression made of all that has been read. -/
def close (g : OpenGroup) : Expr :=
  .ofAlternatives g.next.alternatives.reverse

end OpenGroup

/-- A single character or escape outside of brackets. -/
def readAtom (ignoreSpace : Bool) : List Char → Option (Expr × List Char)
  | [] => none
  | '.' :: cs => some (.dot, cs)
  | '^' :: cs => some (.assertion .lineStart, cs)
  | '$' :: cs => some (.assertion .lineEnd, cs)
  | '[' :: cs => readSet ignoreSpace cs
  | '\\' :: cs => do
    match ← readEscape ignoreSpace cs with
    | (.literal l, cs) => some (.literal l, cs)
    | (.shorthand s isNegated, cs) => some (.shorthand s isNegated, cs)
    | (.property p isNegated, cs) => some (.property p isNegated, cs)
    | (.assertion a, cs) => some (.assertion a, cs)
  | c :: cs => some (.literal ⟨c, false⟩, cs)

/-- Whether the character begins a repetition. -/
def isRepetition (c : Char) : Bool :=
  c = '?' || c = '*' || c = '+' || c = '{'

/-- The rest of a group up to its closing parenthesis or the end of the text, which has less than
`limit` parts. Returns the names given so far and the text from the parenthesis on. -/
def readGroup : (limit : Nat) → State → OpenGroup → List Char →
    Option (Expr × List String × List Char)
  | 0, _, _, _ => none
  | limit + 1, st, g, cs =>
    match skipSpace st.ignoreSpace cs with
    | [] => some (g.close, st.names, [])
    | ')' :: cs => some (g.close, st.names, ')' :: cs)
    | '|' :: cs => readGroup limit st g.next cs
    | '(' :: cs =>
      match readOpening st.ignoreSpace cs with
      | none => none
      | some (.flags changes, cs) =>
        -- These hold up to the end of the group around them.
        let ignoreSpace := (changes.find .ignoreSpace).getD st.ignoreSpace
        readGroup limit { st with ignoreSpace } (g.push (.flags changes)) cs
      | some (.group changes, cs) =>
        -- The names given inside stay taken; the flags do not outlive the group.
        let ignoreSpace := (changes.find .ignoreSpace).getD st.ignoreSpace
        match readGroup limit { st with ignoreSpace } {} cs with
        | some (e, names, ')' :: cs) =>
          readGroup limit { st with names } (g.push (.group changes e)) cs
        | _ => none
      | some (.capture name?, cs) =>
        if name?.any st.names.contains then none
        else
          match readGroup limit { st with names := name?.toList ++ st.names } {} cs with
          | some (e, names, ')' :: cs) =>
            readGroup limit { st with names } (g.push (.capture e)) cs
          | _ => none
    | c :: cs =>
      if isRepetition c then
        match g.parts with
        | [] => none
        | e :: parts =>
          if e.isRepeatable then
            match readRepetition st.ignoreSpace (c :: cs) with
            | some (b, cs) =>
              readGroup limit st { g with parts := .repeat e b :: parts } cs
            | none => none
          else none
      else
        match readAtom st.ignoreSpace (c :: cs) with
        | some (e, cs) => readGroup limit st (g.push e) cs
        | none => none

/-- The pattern that a text writes, if it is one and does not nest too deep. -/
def Expr.read (text : String) : Option Expr :=
  let cs := text.toList
  match readGroup (cs.length + 1) {} {} cs with
  | some (e, _, []) => if e.depth ≤ maxNesting then some e else none
  | _ => none

end Ambient.Pattern
