/-
How large the automaton of an expression is.

An expression is searched for by an automaton over bytes, and from the end of a match backwards by
another one. `Regex.fits` says whether both stay within `sizeLimit`. They are counted as they would
be built:

* `Build` — building with a count of states, which fails where the limit is exceeded;
* `buildSet`, `buildSetBackward` — the automaton of a set, in which sequences of bytes share states;
* `buildLiterals` — the automaton of several literals, in which common beginnings share states;
* `build` — the automaton of an expression.

A state takes 32 bytes, each range of bytes in one with several 8, and each way out of a branch 4.
-/
import Ambient.Pattern.ByteRanges
import Ambient.Pattern.Regex
import Ambient.Pattern.Slots

namespace Ambient.Pattern

/-- The size that an automaton may have: ten mebibytes. -/
def sizeLimit : Nat := 10485760

/-- What has been built so far. -/
structure Tally where
  states : Nat := 0
  size : Nat := 0

/-- Building, as long as it stays within the limit. -/
abbrev Build := StateT Tally Option

namespace Build

/-- Builds so many states and ways between states that take so many bytes. -/
def grow (states bytes : Nat) : Build Unit := fun t =>
  let size := t.size + 32 * states + bytes
  if size ≤ sizeLimit then some ((), ⟨t.states + states, size⟩) else none

/-- Builds a state with a list of so many ranges, and returns its number. -/
def state (ranges : Nat) : Build Nat := fun t =>
  match grow 1 (8 * ranges) t with
  | some (_, t') => some (t.states, t')
  | none => none

/-- Builds a branch, or a state without a list. -/
def plain : Build Unit := grow 1 0

/-- So many ways out of branches. -/
def ways (n : Nat) : Build Unit := grow 0 (4 * n)

/-- Goes on from the end of a part, which is one more way out if that is a branch. -/
def connect (endsInBranch : Bool) : Build Unit :=
  ways (if endsInBranch then 1 else 0)

/-- A part so many times more, after one that ends in a branch or not. Returns whether the last one
ends in one. -/
def again (part : Build Bool) : Nat → (endsInBranch : Bool) → Build Bool
  | 0, endsInBranch, t => some (endsInBranch, t)
  | n + 1, endsInBranch, t =>
    match connect endsInBranch t with
    | none => none
    | some (_, t) =>
      match part t with
      | none => none
      | some (endsInBranch, t) => again part n endsInBranch t

/-- A part so many times. -/
def exactly (part : Build Bool) : Nat → Build Bool
  | 0 => do
    plain
    return false
  | n + 1 => do again part n (← part)

/-- A part at most so many times more, each behind a branch that may leave to the end. -/
def upTo (part : Build Bool) : Nat → (endsInBranch : Bool) → Build Bool
  | 0, endsInBranch, t => some (endsInBranch, t)
  | n + 1, endsInBranch, t =>
    match (do plain; connect endsInBranch; ways 2; part : Build Bool) t with
    | none => none
    | some (endsInBranch, t) => upTo part n endsInBranch t

/-- A part a number of times within bounds. Returns whether it ends in a branch. -/
def repeated (part : Build Bool) (canBeEmpty : Bool) (b : Bounds) : Build Bool :=
  match b.min, b.max with
  | 0, some 1 => do
    plain
    let endsInBranch ← part
    plain
    ways 2
    connect endsInBranch
    return false
  | 0, none => do
    if canBeEmpty then
      -- A branch that repeats the part, and another one that leaves it out.
      let endsInBranch ← part
      grow 3 0
      ways 4
      connect endsInBranch
      return false
    else
      plain
      let endsInBranch ← part
      ways 1
      connect endsInBranch
      return true
  | n + 1, none => do
    if n = 0 then
      let endsInBranch ← part
      plain
      ways 1
      connect endsInBranch
    else
      let endsBefore ← exactly part n
      let endsInBranch ← part
      plain
      ways 1
      connect endsBefore
      connect endsInBranch
    return true
  | min, some max => do
    let endsInBranch ← exactly part min
    if min = max then return endsInBranch
    plain
    connect (← upTo part (max - min) endsInBranch)
    return false

end Build

/-! ### Sets -/

/-- The first ranges of some sequences, each with what follows it. Equal ones stand together. -/
def byFirstRange : List ByteRanges → List ((Nat × Nat) × List ByteRanges)
  | [] => []
  | [] :: seqs => byFirstRange seqs
  | (r :: rest) :: seqs =>
    match byFirstRange seqs with
    | (r', rests) :: groups =>
      if r = r' then (r, rest :: rests) :: groups else (r, [rest]) :: (r', rests) :: groups
    | [] => [(r, [rest])]

/-- Building with the states that have been built for a set. -/
abbrev SetBuild := StateT Recent Build

/-- A state with some ranges and what they lead to, each as three numbers. -/
def shared (ways : List (List Nat)) : SetBuild Nat := do
  let key := ways.flatten
  match (← get).get? key with
  | some n => return n
  | none =>
    let n ← Build.state ways.length
    modify (·.set key n)
    return n

/-- The state from which some sequences lead to a target, in less than `limit` ranges each. -/
def buildSequences (target : Nat) : (limit : Nat) → List ByteRanges → SetBuild Nat
  | 0, _ => return target
  | limit + 1, seqs => do
    if seqs.all (·.isEmpty) then return target
    let ways ← (byFirstRange seqs).mapM fun ((first, last), rests) => do
      return [first, last, ← buildSequences target limit rests]
    shared ways

/-- The states that one sequence leads through from its end, the last of which a branch leads to. -/
def buildSequenceBackward (start : Nat) : ByteRanges → SetBuild Nat
  | [] => return start
  | (first, last) :: rest => do
    let key := [start, first, last]
    match (← get).get? key with
    | some n => buildSequenceBackward n rest
    | none =>
      let n ← Build.state 0
      modify (·.set key n)
      buildSequenceBackward n rest

/-- The automaton of a set. -/
def buildSet (isBackward : Bool) (set : CharSet) : Build Unit := do
  if set.isAscii then
    Build.plain
    let _ ← Build.state set.ranges.length
  else if isBackward then
    Build.plain
    let end_ ← Build.state 0
    let build : SetBuild Unit := set.byteRanges.forM fun seq => do
      let _ ← buildSequenceBackward end_ seq
      Build.ways 1
    let _ ← build.run { size := 1000 }
  else
    let target ← Build.state 0
    let _ ← (buildSequences target 5 set.byteRanges).run { size := 10000 }

/-! ### Literals -/

/-- The rests of some literals with the same beginning, cut where one of them ends there: after it,
nothing is shared with those before. The end of a literal that has ended there already, with
nothing going on in between, makes no difference. -/
def chunksFrom (chunk : List (List Nat)) (hasEnd goesOn : Bool) :
    List (List Nat) → List (List (List Nat))
  | [] => [chunk.reverse]
  | [] :: rests =>
    if hasEnd && !goesOn && chunk.isEmpty then chunksFrom chunk hasEnd goesOn rests
    else chunk.reverse :: chunksFrom [] true (goesOn || !chunk.isEmpty) rests
  | rest :: rests => chunksFrom (rest :: chunk) hasEnd goesOn rests

/-- Adds a rest to those that begin with the same byte. -/
def addByFirst (byte : Nat) (rest : List Nat) :
    List (Nat × List (List Nat)) → List (Nat × List (List Nat))
  | [] => [(byte, [rest])]
  | (byte', rests) :: groups =>
    if byte = byte' then (byte', rest :: rests) :: groups
    else (byte', rests) :: addByFirst byte rest groups

/-- The first bytes of some rests, each with what follows it. -/
def byFirstByte : List (List Nat) → List (Nat × List (List Nat))
  | [] => []
  | [] :: rests => byFirstByte rests
  | (byte :: rest) :: rests => addByFirst byte rest (byFirstByte rests)

/-- The states after the common beginning of some literals, which go on for less than `limit`
bytes. -/
def buildRests : (limit : Nat) → List (List Nat) → Build Unit
  | 0, _ => return ()
  | limit + 1, rests => do
    let chunks := (chunksFrom [] false false rests).map byFirstByte
    chunks.forM fun groups => do
      groups.forM fun (_, rests) =>
        if rests.all (·.isEmpty) then return () else buildRests limit rests
      match groups.length with
      | 0 => return ()
      | 1 => Build.plain
      | n => Build.grow 1 (8 * n)
    Build.plain
    Build.ways ((chunks.filter (!·.isEmpty)).length + (chunks.length - 1))

/-- The automaton of several literals, as bytes. -/
def buildLiterals (literals : List (List Nat)) : Build Unit := do
  Build.plain
  buildRests ((literals.map List.length).foldl max 0 + 1) literals

/-! ### Expressions -/

/-- The bytes of some characters. -/
def bytesOf (cs : List Char) : List Nat :=
  cs.flatMap fun c => utf8 c.toNat

namespace Regex

/-- The characters of an expression that is a literal. -/
def literal? : Regex → Option (List Char)
  | .literal cs => some cs
  | _ => none

mutual

/-- The automaton of an expression. Returns whether it ends in a branch. -/
def build (isBackward : Bool) : Regex → Build Bool
  | .empty => do
    Build.plain
    return false
  | .literal cs => do
    Build.grow (bytesOf cs).length 0
    return false
  | .chars set _ => do
    buildSet isBackward set
    return false
  | .look _ => do
    Build.plain
    return false
  | .repeat r b =>
    Build.repeated (build isBackward r) (!r.minLength?.any (0 < ·)) b
  | .capture r => do
    if isBackward then build isBackward r
    else
      Build.plain
      let endsInBranch ← build isBackward r
      Build.plain
      Build.connect endsInBranch
      return false
  | .concat rs => if isBackward then buildBackward rs else buildForward rs
  | .alt rs => do
    match rs.mapM literal? with
    | some literals =>
      let literals := literals.map bytesOf
      buildLiterals (if isBackward then literals.map List.reverse else literals)
    | none => buildAlternatives isBackward rs
    return false

/-- The automata of several expressions, one after the other. -/
def buildForward : List Regex → Build Bool
  | [] => do
    Build.plain
    return false
  | r :: rs => do buildAfter rs (← build false r)

/-- The same after another one, which ends in a branch or not. -/
def buildAfter : List Regex → Bool → Build Bool
  | [], endsInBranch => return endsInBranch
  | r :: rs, endsInBranch => do
    Build.connect endsInBranch
    buildAfter rs (← build false r)

/-- The automata of several expressions, the last one first. -/
def buildBackward : List Regex → Build Bool
  | [] => do
    Build.plain
    return false
  | [r] => build true r
  | r :: rs => do
    Build.connect (← buildBackward rs)
    build true r

/-- The automata of several expressions, behind a branch to each of them. The branch itself and the
common end are built after the first two. -/
def buildAlternatives (isBackward : Bool) : List Regex → Build Unit
  | [] => Build.plain
  | [r] => do
    let endsInBranch ← build isBackward r
    Build.connect endsInBranch
  | r :: r' :: rs => do
    let endsInBranch ← build isBackward r
    let endsInBranch' ← build isBackward r'
    Build.grow 2 0
    Build.ways 2
    Build.connect endsInBranch
    Build.connect endsInBranch'
    buildMoreAlternatives isBackward rs

/-- More of several expressions behind a branch. -/
def buildMoreAlternatives (isBackward : Bool) : List Regex → Build Unit
  | [] => return ()
  | r :: rs => do
    let endsInBranch ← build isBackward r
    Build.ways 1
    Build.connect endsInBranch
    buildMoreAlternatives isBackward rs

end

/-! ### Anchors -/

mutual

/-- Whether the expression matches at the start of the text alone, or backward at its end. -/
def isAnchored (isBackward : Bool) : Regex → Bool
  | .look l => l = if isBackward then .textEnd else .textStart
  | .repeat r b => 0 < b.min && isAnchored isBackward r
  | .capture r => isAnchored isBackward r
  | .concat rs => if isBackward then isLastAnchored rs else isFirstAnchored rs
  | .alt rs => areAnchored isBackward rs
  | _ => false

/-- The same for the first of several expressions that is not only a condition, or one before. -/
def isFirstAnchored : List Regex → Bool
  | [] => false
  | r :: rs => isAnchored false r || (r.isZeroWidth && isFirstAnchored rs)

/-- The same for the last of several expressions that is not only a condition, or one after. -/
def isLastAnchored : List Regex → Bool
  | [] => false
  | r :: rs => isLastAnchored rs || (allZeroWidth rs && isAnchored true r)

/-- The same for all of several expressions. -/
def areAnchored (isBackward : Bool) : List Regex → Bool
  | [] => true
  | r :: rs => isAnchored isBackward r && areAnchored isBackward rs

end

/-- The automaton that searches for an expression, or backward for the start of a match. -/
def buildSearch (isBackward : Bool) (r : Regex) : Build Unit := do
  if isAnchored isBackward r then Build.plain
  else
    -- A branch that passes over any byte.
    Build.grow 3 8
    Build.ways 2
  let endsInBranch ← if isBackward then build true r else build false (.capture r)
  Build.connect endsInBranch
  Build.plain

/-- Whether the automata of an expression stay within the limit. -/
def fits (r : Regex) : Bool :=
  ((buildSearch false r).run {}).isSome && ((buildSearch true r).run {}).isSome

end Regex

end Ambient.Pattern
