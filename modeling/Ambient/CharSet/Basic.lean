/-
Sets of characters as ranges of code points.

* `CharSet` — ascending ranges that neither overlap nor touch;
* `CharSet.mem` — membership, by code point;
* `union`, `inter`, `diff`, `symmDiff`, `compl` — each goes once through the ranges of its operands;
* `unions` — the union of many sets, taken two by two.

The codes from `0xD800` up to `0xDFFF` are no characters: `succ` and `pred` pass over them. A range
may reach across them, which makes no difference to its members.
-/

namespace Ambient

/-- A set of characters: ranges of code points, ends included, in ascending order and apart. -/
structure CharSet where
  ranges : List (Nat × Nat) := []
  deriving DecidableEq, Repr

namespace CharSet

/-- The highest code point. -/
def maxCode : Nat := 0x10FFFF

/-- The next code point of a character. -/
def succ (n : Nat) : Nat :=
  if n = 0xD7FF then 0xE000 else n + 1

/-- The code point of the character before. -/
def pred (n : Nat) : Nat :=
  if n = 0xE000 then 0xD7FF else n - 1

/-- Whether the set has the character with this code point. -/
def mem (a : CharSet) (n : Nat) : Bool :=
  a.ranges.any fun (first, last) => first ≤ n && n ≤ last

/-- No character. -/
def empty : CharSet := {}

/-- The characters between two, ends included. -/
def range (first last : Nat) : CharSet :=
  ⟨[(first, last)]⟩

/-- The set of one character. -/
def single (n : Nat) : CharSet :=
  range n n

/-- All characters. -/
def all : CharSet :=
  range 0 maxCode

/-- Whether there is no character in the set. -/
def isEmpty (a : CharSet) : Bool :=
  a.ranges.isEmpty

/-- The member of a set that has only one. -/
def onlyMember? (a : CharSet) : Option Nat :=
  match a.ranges with
  | [(first, last)] => if first = last then some first else none
  | _ => none

/-- Whether all members are in ASCII. -/
def isAscii (a : CharSet) : Bool :=
  a.ranges.all fun (_, last) => last < 0x80

/-! ### Unions -/

/-- The ranges of both lists, by their first codes. -/
def merge : List (Nat × Nat) → List (Nat × Nat) → List (Nat × Nat)
  | [] => fun bs => bs
  | a :: as => mergeHead a (merge as)
where
  /-- The same with the head of the left list at hand. -/
  mergeHead (a : Nat × Nat) (mergeTail : List (Nat × Nat) → List (Nat × Nat)) :
      List (Nat × Nat) → List (Nat × Nat)
    | [] => a :: mergeTail []
    | b :: bs => if a.1 ≤ b.1 then a :: mergeTail (b :: bs) else b :: mergeHead a mergeTail bs

/-- Joins the ranges that overlap or touch. -/
def join : List (Nat × Nat) → List (Nat × Nat)
  | [] => []
  | r :: rs => joinAfter r rs
where
  /-- The same after a range that may still grow. -/
  joinAfter (r : Nat × Nat) : List (Nat × Nat) → List (Nat × Nat)
    | [] => [r]
    | s :: rs =>
      if s.1 ≤ r.2 + 1 then joinAfter (r.1, max r.2 s.2) rs else r :: joinAfter s rs

/-- The members of either set. -/
def union (a b : CharSet) : CharSet :=
  ⟨join (merge a.ranges b.ranges)⟩

/-- The union of each set with its neighbour. -/
def unionPairs : List CharSet → List CharSet
  | a :: b :: sets => a.union b :: unionPairs sets
  | sets => sets

/-- The union of several sets. -/
def unions (sets : List CharSet) : CharSet :=
  gather sets.length sets
where
  /-- Halves the number of sets so many times, or until one is left. -/
  gather : Nat → List CharSet → CharSet
    | _, [] => empty
    | _, [a] => a
    | 0, a :: _ => a
    | n + 1, sets => gather n (unionPairs sets)

/-! ### Intersections and differences -/

/-- What two lists of ranges have in common. -/
def meet : List (Nat × Nat) → List (Nat × Nat) → List (Nat × Nat)
  | [] => fun _ => []
  | a :: as => meetHead a (meet as)
where
  /-- The same with the head of the left list at hand. -/
  meetHead (a : Nat × Nat) (meetTail : List (Nat × Nat) → List (Nat × Nat)) :
      List (Nat × Nat) → List (Nat × Nat)
    | [] => []
    | b :: bs =>
      if a.2 < b.1 then meetTail (b :: bs)
      else if b.2 < a.1 then meetHead a meetTail bs
      else
        (max a.1 b.1, min a.2 b.2) ::
          if a.2 < b.2 then meetTail (b :: bs) else meetHead a meetTail bs

/-- The members of both sets. -/
def inter (a b : CharSet) : CharSet :=
  ⟨meet a.ranges b.ranges⟩

/-- What is left of the ranges of one list without those of another. -/
def cut : List (Nat × Nat) → List (Nat × Nat) → List (Nat × Nat)
  | [] => fun _ => []
  | a :: as => cutHead (cut as) a
where
  /-- The same with what is left of the head of the first list at hand. -/
  cutHead (cutTail : List (Nat × Nat) → List (Nat × Nat)) (a : Nat × Nat) :
      List (Nat × Nat) → List (Nat × Nat)
    | [] => a :: cutTail []
    | b :: bs =>
      if b.2 < a.1 then cutHead cutTail a bs
      else if a.2 < b.1 then a :: cutTail (b :: bs)
      else
        let rest :=
          if b.2 < a.2 then cutHead cutTail (succ b.2, a.2) bs else cutTail (b :: bs)
        if a.1 < b.1 then (a.1, pred b.1) :: rest else rest

/-- The members of the first set that are not in the second. -/
def diff (a b : CharSet) : CharSet :=
  ⟨cut a.ranges b.ranges⟩

/-- The members of exactly one of the sets. -/
def symmDiff (a b : CharSet) : CharSet :=
  (a.union b).diff (a.inter b)

/-! ### Complements -/

/-- The gaps after a code and between ranges, up to the highest code. Where two ranges stand on both
sides of the codes that are no characters, the gap is made of their two ends. -/
def gaps (last : Nat) : List (Nat × Nat) → List (Nat × Nat)
  | [] => if last < maxCode then [(succ last, maxCode)] else []
  | (first, last') :: rs =>
    (min (succ last) (pred first), max (succ last) (pred first)) :: gaps last' rs

/-- The characters that are not in the set. -/
def compl (a : CharSet) : CharSet :=
  match a.ranges with
  | [] => all
  | (first, last) :: rs => ⟨if 0 < first then (0, pred first) :: gaps last rs else gaps last rs⟩

end CharSet

end Ambient
