/-
Tables with numbered slots, each of which holds one value at most.

* `Slots` — the slots are the leaves of a tree, found by the binary digits of their numbers, lowest
  first;
* `Recent` — a table of keys and values that remembers, of all keys with the same slot, the latest;
* `hashOf` — the number that decides on the slot of a key.
-/

namespace Ambient.Pattern

/-- A table of values by slot. -/
inductive Slots (α : Type) where
  | empty
  | value (a : α)
  | node (even odd : Slots α)

namespace Slots

variable {α : Type}

/-- The value in a slot. -/
def get? : Slots α → Nat → Option α
  | .empty, _ => none
  | .value a, _ => some a
  | .node even odd, slot => if slot % 2 = 0 then even.get? (slot / 2) else odd.get? (slot / 2)

/-- The parts of a table with even and with odd slots. -/
def halves : Slots α → Slots α × Slots α
  | .node even odd => (even, odd)
  | _ => (.empty, .empty)

/-- Puts a value into a slot, whose number has so many binary digits. -/
def set (a : α) : (digits : Nat) → (slot : Nat) → Slots α → Slots α
  | 0, _, _ => .value a
  | digits + 1, slot, t =>
    if slot % 2 = 0 then .node (set a digits (slot / 2) t.halves.1) t.halves.2
    else .node t.halves.1 (set a digits (slot / 2) t.halves.2)

end Slots

/-- A number that mixes several: each is taken in by exclusive or, and spread by a product. -/
def hashOf (ns : List Nat) : UInt64 :=
  ns.foldl (fun h n => (h ^^^ n.toUInt64) * 1099511628211) 14695981039346656037

/-- A table of lists of numbers that have been numbered, with so many slots. -/
structure Recent where
  size : Nat
  slots : Slots (List Nat × Nat) := .empty

namespace Recent

/-- The slot of a key. -/
def slot (t : Recent) (key : List Nat) : Nat :=
  (hashOf key).toNat % t.size

/-- The number of a key, if it is remembered. -/
def get? (t : Recent) (key : List Nat) : Option Nat :=
  match t.slots.get? (t.slot key) with
  | some (key', n) => if key' = key then some n else none
  | none => none

/-- Remembers a key in place of any other with the same slot. -/
def set (t : Recent) (key : List Nat) (n : Nat) : Recent :=
  { t with slots := t.slots.set (key, n) (t.size.log2 + 1) (t.slot key) }

end Recent

end Ambient.Pattern
