/-
JSON values written out.

* `escaped` — a string between quotation marks;
* `Layout` — what stands between the parts of arrays and objects: nothing (`compact`), or line ends
  and indentation (`indented`);
* `Value.write` — a value in a layout.

Empty arrays and objects are written without anything between their brackets in every layout.
-/
import Ambient.Json.Value

namespace Ambient.Json

/-- How one character stands in a string. -/
def escapedChar (c : Char) : List Char :=
  match c with
  | '"' => ['\\', '"']
  | '\\' => ['\\', '\\']
  | '\x08' => ['\\', 'b']
  | '\x0c' => ['\\', 'f']
  | '\n' => ['\\', 'n']
  | '\r' => ['\\', 'r']
  | '\t' => ['\\', 't']
  | c =>
    if c.toNat < 0x20 then
      ['\\', 'u', '0', '0', Nat.digitChar (c.toNat / 16), Nat.digitChar (c.toNat % 16)]
    else [c]

/-- The string between quotation marks. -/
def escaped (s : String) : List Char :=
  '"' :: s.toList.flatMap escapedChar ++ ['"']

/-- What stands between the parts of a value. -/
structure Layout where
  /-- Before each part, and before the closing bracket, at a depth. -/
  gap : Nat → List Char
  /-- Between a key and its value. -/
  colon : List Char

/-- Nothing between the parts. -/
def Layout.compact : Layout where
  gap _ := []
  colon := [':']

/-- Each part on a line of its own, two blanks further in for each depth. -/
def Layout.indented : Layout where
  gap depth := '\n' :: List.replicate (2 * depth) ' '
  colon := [':', ' ']

/-- A number written out. -/
def Number.text : Number → String
  | .integer i => toString i
  | .real bits => realText bits

namespace Value

mutual

/-- The value in the layout, with so many brackets open around it. -/
def write (l : Layout) (depth : Nat) : Value → List Char
  | .null => "null".toList
  | .boolean b => (if b then "true" else "false").toList
  | .number n => n.text.toList
  | .string s => escaped s
  | .array [] => ['[', ']']
  | .array (v :: vs) => '[' :: writeElements l (depth + 1) (v :: vs) ++ l.gap depth ++ [']']
  | .object [] => ['{', '}']
  | .object (e :: es) => '{' :: writeEntries l (depth + 1) (e :: es) ++ l.gap depth ++ ['}']

/-- The elements of an array, with commas between them. -/
def writeElements (l : Layout) (depth : Nat) : List Value → List Char
  | [] => []
  | [v] => l.gap depth ++ write l depth v
  | v :: w :: vs => l.gap depth ++ write l depth v ++ ',' :: writeElements l depth (w :: vs)

/-- The entries of an object, with commas between them. -/
def writeEntries (l : Layout) (depth : Nat) : List (String × Value) → List Char
  | [] => []
  | [e] => l.gap depth ++ writeEntry l depth e
  | e :: f :: es => l.gap depth ++ writeEntry l depth e ++ ',' :: writeEntries l depth (f :: es)

/-- A key and its value. -/
def writeEntry (l : Layout) (depth : Nat) : String × Value → List Char
  | (key, v) => escaped key ++ l.colon ++ write l depth v

end

/-- The value on one line. -/
def compact (v : Value) : String :=
  String.ofList (v.write .compact 0)

/-- The value on indented lines. -/
def indented (v : Value) : String :=
  String.ofList (v.write .indented 0)

end Value

end Ambient.Json
