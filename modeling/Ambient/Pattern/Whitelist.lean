/-
Whitelists: patterns that say which methods may be copied.

* `Pattern.read` — a pattern made ready: its text is put between `^(?:` and `)$`;
* `Whitelist.ofList` — a list of patterns, or the first that cannot be used;
* `Whitelist.allows` — whether one of the patterns matches `Type.method`.
-/
import Ambient.Pattern.Automaton
import Ambient.Pattern.Meaning
import Ambient.Pattern.Occurrence
import Ambient.Pattern.Reader

namespace Ambient

namespace Pattern

/-- Why a text cannot be used as a pattern. -/
inductive Refusal where
  /-- The text is no pattern. -/
  | malformed
  /-- The automaton of the pattern exceeds the limit. -/
  | tooLarge
  deriving DecidableEq, Repr

/-- The regular expression that a text writes. -/
def Regex.read (text : String) : Except Refusal Regex :=
  match (Expr.read text).bind Expr.regex with
  | some r => if r.fits then .ok r else .error .tooLarge
  | none => .error .malformed

/-- A pattern with the text it was read from. -/
structure Compiled where
  source : String
  regex : Regex

/-- The text that is read for a pattern: anchored at both ends. -/
def anchored (source : String) : String :=
  "^(?:" ++ source ++ ")$"

end Pattern

/-- A text that cannot be used as a pattern. -/
structure InvalidPattern where
  source : String
  cause : Pattern.Refusal
  deriving DecidableEq, Repr

/-- The wording. -/
def InvalidPattern.message (e : InvalidPattern) : String :=
  "invalid method whitelist pattern `" ++ e.source ++ "`: " ++
    match e.cause with
    | .malformed => "error parsing pattern 0"
    | .tooLarge => "error building NFA"

/-- A pattern, anchored at both ends. -/
def Pattern.read (source : String) : Except InvalidPattern Pattern.Compiled :=
  match Regex.read (anchored source) with
  | .ok regex => .ok ⟨source, regex⟩
  | .error cause => .error ⟨source, cause⟩

/-- Patterns for the methods that may be copied. -/
structure Whitelist where
  patterns : List Pattern.Compiled := []

namespace Whitelist

/-- The whitelist of some patterns. -/
def ofList (sources : List String) : Except InvalidPattern Whitelist := do
  return ⟨← sources.mapM Pattern.read⟩

/-- The texts of the patterns, in order. -/
def sources (w : Whitelist) : List String :=
  w.patterns.map (·.source)

/-- Whether the method of a type may be copied. Without patterns none may. -/
def allows (w : Whitelist) (typeName method : String) : Bool :=
  let key := typeName ++ "." ++ method
  w.patterns.any fun p => p.regex.occursIn key

end Whitelist

end Ambient
