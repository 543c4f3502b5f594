/-
Patterns as they are written.

* `Bounds` — how often something is repeated;
* `Expr` — the expression a pattern writes, with its flags not yet applied;
* `SetItem`, `SetExpr` — what stands between square brackets;
* `Expr.depth` — how deep a pattern nests, which has a limit.
-/
import Ambient.CharSet.Property

namespace Ambient.Pattern

/-- A flag that changes how the rest of a group is understood. -/
inductive Flag where
  | caseInsensitive
  | multiLine
  | dotMatchesNewLine
  | swapGreed
  | unicode
  | crlf
  | ignoreSpace
  deriving DecidableEq, Repr

/-- Flags to be set or cleared. -/
abbrev FlagChanges := List (Flag × Bool)

/-- A character that stands for itself, or is given by its number. -/
structure Literal where
  char : Char
  /-- Whether it is written as two hexadecimal digits, and may stand for a byte. -/
  isByte : Bool := false
  deriving DecidableEq, Repr

/-- The sets with a letter of their own. -/
inductive Shorthand where
  | digit
  | space
  | word
  deriving DecidableEq, Repr

/-- A condition, as it is written. -/
inductive Assertion where
  /-- `^` -/
  | lineStart
  /-- `$` -/
  | lineEnd
  | textStart
  | textEnd
  | boundary
  | noBoundary
  | wordStart
  | wordEnd
  | halfStart
  | halfEnd
  deriving DecidableEq, Repr

/-- The bounds of a repetition: at least `min` times, and at most `max` times if that is given. -/
structure Bounds where
  min : Nat
  max : Option Nat
  /-- Whether fewer times are tried first, which makes no difference to what is matched. -/
  isLazy : Bool := false
  deriving DecidableEq, Repr

namespace Bounds

/-- Zero times or once. -/
def optional : Bounds := ⟨0, some 1, false⟩

/-- Any number of times. -/
def many : Bounds := ⟨0, none, false⟩

/-- Once or more often. -/
def once : Bounds := ⟨1, none, false⟩

end Bounds

/-- How two sets are put together. -/
inductive SetOp where
  | inter
  | diff
  | symmDiff
  deriving DecidableEq, Repr

mutual

/-- One thing between square brackets. -/
inductive SetItem where
  | literal (l : Literal)
  | range (first last : Literal)
  | named (isNegated : Bool) (set : CharSet)
  | shorthand (s : Shorthand) (isNegated : Bool)
  | property (p : PropertyName) (isNegated : Bool)
  | bracketed (isNegated : Bool) (set : SetExpr)

/-- What stands between square brackets. -/
inductive SetExpr where
  | union (items : List SetItem)
  | op (o : SetOp) (lhs rhs : SetExpr)

end

/-- A pattern as it is written. -/
inductive Expr where
  | empty
  | flags (changes : FlagChanges)
  | literal (l : Literal)
  | dot
  | assertion (a : Assertion)
  | shorthand (s : Shorthand) (isNegated : Bool)
  | property (p : PropertyName) (isNegated : Bool)
  | set (isNegated : Bool) (set : SetExpr)
  | repeat (e : Expr) (b : Bounds)
  | group (changes : FlagChanges) (e : Expr)
  /-- A group whose match is kept. -/
  | capture (e : Expr)
  | alt (es : List Expr)
  | concat (es : List Expr)

/-! ### Nesting -/

mutual

/-- How deep an item nests. -/
def SetItem.depth : SetItem → Nat
  | .bracketed _ set => set.depth + 1
  | _ => 0

/-- How many brackets, unions of several items and operations stand inside each other. -/
def SetExpr.depth : SetExpr → Nat
  | .union [] => 0
  | .union [item] => item.depth
  | .union (item :: items) => max item.depth (itemsDepth items) + 1
  | .op _ lhs rhs => max lhs.depth rhs.depth + 1

/-- The depth of the deepest item. -/
def itemsDepth : List SetItem → Nat
  | [] => 0
  | item :: items => max item.depth (itemsDepth items)

end

mutual

/-- How many repetitions, groups, alternations and concatenations stand inside each other. -/
def Expr.depth : Expr → Nat
  | .set _ set => set.depth + 1
  | .repeat e _ => e.depth + 1
  | .group _ e => e.depth + 1
  | .capture e => e.depth + 1
  | .alt es => exprsDepth es + 1
  | .concat es => exprsDepth es + 1
  | _ => 0

/-- The depth of the deepest expression. -/
def exprsDepth : List Expr → Nat
  | [] => 0
  | e :: es => max e.depth (exprsDepth es)

end

/-- How deep a pattern may nest. -/
def maxNesting : Nat := 250

namespace Expr

/-- Several expressions one after the other. -/
def ofSequence : List Expr → Expr
  | [] => .empty
  | [e] => e
  | es => .concat es

/-- One of several expressions. -/
def ofAlternatives : List Expr → Expr
  | [] => .empty
  | [e] => e
  | es => .alt es

/-- Whether a repetition may follow. -/
def isRepeatable : Expr → Bool
  | .empty | .flags _ => false
  | _ => true

end Expr

/-- The last change of a flag. The first mention counts: no flag is mentioned twice. -/
def FlagChanges.find (changes : FlagChanges) (f : Flag) : Option Bool :=
  changes.lookup f

end Ambient.Pattern
