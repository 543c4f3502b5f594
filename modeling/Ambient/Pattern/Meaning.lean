/-
What a pattern matches.

`Expr.regex` makes a regular expression of a written one. Flags hold from where they are set to the
end of the group around them, later alternatives included. A pattern has no meaning if, with the
`u` flag cleared, it could match part of a character, or names a property.
-/
import Ambient.CharSet.Case
import Ambient.Pattern.Expr
import Ambient.Pattern.Regex

namespace Ambient.Pattern

/-- The flags that are set. -/
structure Flags where
  caseInsensitive : Bool := false
  multiLine : Bool := false
  dotMatchesNewLine : Bool := false
  swapGreed : Bool := false
  unicode : Bool := true
  crlf : Bool := false
  deriving DecidableEq, Repr

/-- The flags after some changes. -/
def Flags.change (f : Flags) (changes : FlagChanges) : Flags where
  caseInsensitive := (changes.find .caseInsensitive).getD f.caseInsensitive
  multiLine := (changes.find .multiLine).getD f.multiLine
  dotMatchesNewLine := (changes.find .dotMatchesNewLine).getD f.dotMatchesNewLine
  swapGreed := (changes.find .swapGreed).getD f.swapGreed
  unicode := (changes.find .unicode).getD f.unicode
  crlf := (changes.find .crlf).getD f.crlf

/-- The set with the case variants of its members, where case does not matter. -/
def Flags.fold (f : Flags) (a : CharSet) : CharSet :=
  if f.caseInsensitive then if f.unicode then a.folded else a.asciiFolded else a

/-- The set, or its complement. With bytes there is no complement: it would hold bytes that are part
of a character. -/
def Flags.complIf (f : Flags) (isNegated : Bool) (a : CharSet) : Option CharSet :=
  if !isNegated then some a else if f.unicode then some a.compl else none

/-- A set with a letter of its own. -/
def Shorthand.set (f : Flags) : Shorthand → CharSet
  | .digit => if f.unicode then .digits else .asciiDigits
  | .space => if f.unicode then .blanks else .asciiBlanks
  | .word => if f.unicode then .wordChars else .asciiWordChars

/-- The characters with a property; with bytes there are none to have one. -/
def Flags.property (f : Flags) (p : PropertyName) (isNegated : Bool) : Option CharSet := do
  if f.unicode then f.complIf isNegated (f.fold (← CharSet.property? p)) else none

/-- The code of a literal inside brackets: with bytes, one of ASCII. -/
def Literal.code (f : Flags) (l : Literal) : Option Nat :=
  if f.unicode || l.char.toNat < 0x80 then some l.char.toNat else none

/-- A literal with its case variants, where case does not matter. With bytes a character beyond
ASCII has none, and a byte is no character there. -/
def Literal.regex (f : Flags) (l : Literal) : Option Regex :=
  if !f.unicode && 0x80 ≤ l.char.toNat then
    if l.isByte then none else some (.literal [l.char])
  else if f.caseInsensitive then
    some (.charsOf (f.fold (.single l.char.toNat)) !f.unicode)
  else some (.literal [l.char])

mutual

/-- The characters that one thing between brackets stands for. -/
def SetItem.set (f : Flags) : SetItem → Option CharSet
  | .literal l => do return .single (← l.code f)
  | .range a b => do return .range (← a.code f) (← b.code f)
  | .named isNegated set => f.complIf isNegated (f.fold set)
  | .shorthand s isNegated => f.complIf isNegated (s.set f)
  | .property p isNegated => f.property p isNegated
  | .bracketed isNegated set => do f.complIf isNegated (f.fold (← set.set f))

/-- The characters between brackets. -/
def SetExpr.set (f : Flags) : SetExpr → Option CharSet
  | .union items => do return .unions (← itemSets f items)
  | .op o lhs rhs => do
    let a := f.fold (← lhs.set f)
    let b := f.fold (← rhs.set f)
    match o with
    | .inter => return a.inter b
    | .diff => return a.diff b
    | .symmDiff => return a.symmDiff b

/-- The characters that several things between brackets stand for. -/
def itemSets (f : Flags) : List SetItem → Option (List CharSet)
  | [] => some []
  | item :: items => do return (← item.set f) :: (← itemSets f items)

end

/-- A condition with its flags. -/
def Assertion.look (f : Flags) : Assertion → Look
  | .lineStart =>
    if f.multiLine then if f.crlf then .crlfStart else .lineStart else .textStart
  | .lineEnd => if f.multiLine then if f.crlf then .crlfEnd else .lineEnd else .textEnd
  | .textStart => .textStart
  | .textEnd => .textEnd
  | .boundary => .boundary f.unicode
  | .noBoundary => .noBoundary f.unicode
  | .wordStart => .wordStart f.unicode
  | .wordEnd => .wordEnd f.unicode
  | .halfStart => .halfStart f.unicode
  | .halfEnd => .halfEnd f.unicode

/-- The characters a dot stands for. -/
def Flags.dot (f : Flags) : Option CharSet :=
  if !f.unicode then none
  else if f.dotMatchesNewLine then some .all
  else if f.crlf then some (CharSet.compl ⟨[(0x0A, 0x0A), (0x0D, 0x0D)]⟩)
  else some (CharSet.single 0x0A).compl

/-- A set as an expression. -/
def Flags.chars (f : Flags) (a : CharSet) : Regex :=
  .charsOf a !f.unicode

mutual

/-- The regular expression of a written one, and the flags that hold after it. -/
def Expr.regexWith (f : Flags) : Expr → Option (Regex × Flags)
  | .empty => some (.empty, f)
  | .flags changes => some (.empty, f.change changes)
  | .literal l => do return (← l.regex f, f)
  | .dot => do return (f.chars (← f.dot), f)
  | .assertion a => some (.look (a.look f), f)
  | .shorthand s isNegated => do return (f.chars (← f.complIf isNegated (s.set f)), f)
  | .property p isNegated => do return (f.chars (← f.property p isNegated), f)
  | .set isNegated set => do
    return (f.chars (← f.complIf isNegated (f.fold (← set.set f))), f)
  | .repeat e b => do
    let (r, f) ← e.regexWith f
    return (.repeatOf r { b with isLazy := b.isLazy != f.swapGreed }, f)
  | .group changes e => do
    let (r, _) ← e.regexWith (f.change changes)
    return (r, f)
  | .capture e => do
    let (r, _) ← e.regexWith f
    return (.capture r, f)
  | .alt es => do
    let (rs, f) ← regexesWith f es
    return (.altOf rs, f)
  | .concat es => do
    let (rs, f) ← regexesWith f es
    return (.concatOf rs, f)

/-- The regular expressions of several written ones, the flags passing through. -/
def regexesWith (f : Flags) : List Expr → Option (List Regex × Flags)
  | [] => some ([], f)
  | e :: es => do
    let (r, f) ← e.regexWith f
    let (rs, f) ← regexesWith f es
    return (r :: rs, f)

end

/-- The regular expression of a written one. -/
def Expr.regex (e : Expr) : Option Regex := do
  return (← e.regexWith {}).1

end Ambient.Pattern
