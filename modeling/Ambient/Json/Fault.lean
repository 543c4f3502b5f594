/-
What can be wrong with a model's text.

* `Found` — what stands in the text;
* `Expected` — what would have had to stand there;
* `Fault` — the causes: faults of the notation, and well-formed values in the wrong place;
* `Fault.message` — the wording.
-/
import Ambient.Json.Shortest
import Ambient.Json.Number
import Ambient.Text.Escaped

namespace Ambient.Json

/-- What stands in the text. -/
inductive Found where
  | null
  | boolean (b : Bool)
  | number (n : Number)
  | string (s : String)
  | array
  | object
  /-- The name of an alternative, without the contents it has to have. -/
  | nameAlone
  deriving DecidableEq, Repr

/-- What would have had to stand there. -/
inductive Expected where
  | string
  | boolean
  | array
  | count
  | unit
  /-- A record, known by its title. -/
  | record (title : String)
  /-- A record written as an array of so many fields. -/
  | fields (title : String) (number : Nat)
  /-- One of several kinds of record, told apart by a tag. -/
  | tagged (title : String)
  /-- The contents of an alternative. -/
  | contents
  /-- The contents of an alternative, as a record. -/
  | recordContents
  /-- The name of an alternative. -/
  | alternative
  /-- The number of an alternative out of so many. -/
  | alternativeIndex (number : Nat)
  /-- An alternative, as its name or as an object. -/
  | choice
  /-- An object with one entry. -/
  | oneEntry
  /-- An array that ends after so many elements. -/
  | elements (number : Nat)
  deriving DecidableEq, Repr

/-- What is wrong with a text. -/
inductive Fault where
  | valueEnds
  | objectEnds
  | arrayEnds
  | stringEnds
  | colonExpected
  | arrayCommaExpected
  | objectCommaExpected
  | wordExpected
  | valueExpected
  | keyExpected
  | trailingComma
  | trailingCharacters
  | invalidNumber
  | numberOutOfRange
  | invalidEscape
  | surrogateExpected
  | loneSurrogate
  | controlCharacter
  | tooDeep
  | wrongType (found : Found) (expected : Expected)
  | wrongValue (found : Found) (expected : Expected)
  | wrongLength (length : Nat) (expected : Expected)
  | unknownAlternative (name : String) (known : List String)
  | missingField (key : String)
  | duplicateField (key : String)
  deriving DecidableEq, Repr

/-- A number with its noun. -/
def counted (n : Nat) (noun : String) : String :=
  if n = 1 then "1 " ++ noun else toString n ++ " " ++ noun ++ "s"

/-- A name in backquotes. -/
def marked (name : String) : String :=
  "`" ++ name ++ "`"

/-- What was found, as a message says it. -/
def Found.text : Found → String
  | .null => "null"
  | .boolean b => "boolean " ++ marked (if b then "true" else "false")
  | .number (.integer i) => "integer " ++ marked (toString i)
  | .number (.real bits) => "floating point " ++ marked (realText bits)
  | .string s => "string " ++ Text.quoted s
  | .array => "sequence"
  | .object => "map"
  | .nameAlone => "unit variant"

/-- What was expected, as a message says it. -/
def Expected.text : Expected → String
  | .string => "a string"
  | .boolean => "a boolean"
  | .array => "a sequence"
  | .count => "u32"
  | .unit => "unit"
  | .record title => title
  | .fields title n => title ++ " with " ++ counted n "element"
  | .tagged title => title
  | .contents => "newtype variant"
  | .recordContents => "struct variant"
  | .alternative => "variant identifier"
  | .alternativeIndex n => "variant index 0 <= i < " ++ toString n
  | .choice => "string or map"
  | .oneEntry => "map with a single key"
  | .elements n => counted n "element" ++ " in sequence"

/-- The known names in a sentence. -/
def namesText (known : List String) : String :=
  match known.map marked with
  | [] => "there are no variants"
  | [a] => "expected " ++ a
  | [a, b] => "expected " ++ a ++ " or " ++ b
  | names => "expected one of " ++ ", ".intercalate names

/-- The message of a fault, without its place in the text. -/
def Fault.message : Fault → String
  | .valueEnds => "EOF while parsing a value"
  | .objectEnds => "EOF while parsing an object"
  | .arrayEnds => "EOF while parsing a list"
  | .stringEnds => "EOF while parsing a string"
  | .colonExpected => "expected `:`"
  | .arrayCommaExpected => "expected `,` or `]`"
  | .objectCommaExpected => "expected `,` or `\x7d`"
  | .wordExpected => "expected ident"
  | .valueExpected => "expected value"
  | .keyExpected => "key must be a string"
  | .trailingComma => "trailing comma"
  | .trailingCharacters => "trailing characters"
  | .invalidNumber => "invalid number"
  | .numberOutOfRange => "number out of range"
  | .invalidEscape => "invalid escape"
  | .surrogateExpected => "unexpected end of hex escape"
  | .loneSurrogate => "lone leading surrogate in hex escape"
  | .controlCharacter => "control character (\\u0000-\\u001F) found while parsing a string"
  | .tooDeep => "recursion limit exceeded"
  | .wrongType found expected => "invalid type: " ++ found.text ++ ", expected " ++ expected.text
  | .wrongValue found expected => "invalid value: " ++ found.text ++ ", expected " ++ expected.text
  | .wrongLength n expected => "invalid length " ++ toString n ++ ", expected " ++ expected.text
  | .unknownAlternative name known =>
    "unknown variant " ++ marked name ++ ", " ++ namesText known
  | .missingField key => "missing field " ++ marked key
  | .duplicateField key => "duplicate field " ++ marked key

end Ambient.Json
