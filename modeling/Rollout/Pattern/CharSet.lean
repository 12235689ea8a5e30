import Rollout.Text.CaseFold
/-!
# Sets of characters

A set of characters is a list of closed ranges of code points in normal form: sorted, disjoint
and not adjacent, so equal sets have equal lists. Every operation of a character class of a
pattern is an operation here:

* `normalize` brings any list of ranges to normal form; `union`, `complement`, `intersect`,
  `difference` and `symmetricDifference` are built on it;
* `negate` is the complement among Unicode scalar values, which leaves out the surrogates;
* `caseFold` adds to the set every character with the same simple case folding as a member.
-/

namespace Rollout.Pattern

open Rollout.Text

/-- The largest code point. -/
def maxCode : Nat := 0x10FFFF

/-- A set of code points as sorted, disjoint, non-adjacent closed ranges. -/
structure CharSet where
  ranges : List (Nat × Nat)
deriving DecidableEq, Inhabited

namespace CharSet

/-- The empty set. -/
def empty : CharSet := ⟨[]⟩

/-- Merges neighbouring ranges of a list sorted by start when they overlap or touch. -/
def mergeSorted : List (Nat × Nat) → List (Nat × Nat)
  | (a, b) :: (c, d) :: rest =>
    if c ≤ b + 1 then mergeSorted ((a, max b d) :: rest)
    else (a, b) :: mergeSorted ((c, d) :: rest)
  | rs => rs
termination_by rs => rs.length

/-- The set of the code points of some ranges, each given with its ends in either order. -/
def normalize (rs : List (Nat × Nat)) : CharSet :=
  let ordered := rs.map fun (a, b) => (min a b, max a b)
  ⟨mergeSorted (ordered.mergeSort fun x y => decide (x.1 ≤ y.1))⟩

/-- The set of one range. -/
def range (lo hi : Nat) : CharSet := normalize [(lo, hi)]

/-- The set of one code point. -/
def single (c : Nat) : CharSet := ⟨[(c, c)]⟩

/-- The set of all code points. -/
def full : CharSet := ⟨[(0, maxCode)]⟩

/-- The set of the ASCII characters. -/
def ascii : CharSet := ⟨[(0, 0x7F)]⟩

/-- Whether a code point is in the set. -/
def contains (s : CharSet) (c : Nat) : Bool :=
  s.ranges.any fun (lo, hi) => lo ≤ c && c ≤ hi

/-- Whether the set holds no code point. -/
def isEmpty (s : CharSet) : Bool := s.ranges.isEmpty

/-- Whether every member is an ASCII character. -/
def isAscii (s : CharSet) : Bool := s.ranges.all fun (_, hi) => hi ≤ 0x7F

/-- The union of two sets. -/
def union (s t : CharSet) : CharSet := normalize (s.ranges ++ t.ranges)

/-- The code points from `next` on that no range of a sorted list holds. -/
def gaps (next : Nat) : List (Nat × Nat) → List (Nat × Nat)
  | [] => if next ≤ maxCode then [(next, maxCode)] else []
  | (a, b) :: rest => (if next < a then [(next, a - 1)] else []) ++ gaps (b + 1) rest

/-- The code points not in the set. -/
def complement (s : CharSet) : CharSet := ⟨gaps 0 s.ranges⟩

/-- The common members of two sets. -/
def intersect (s t : CharSet) : CharSet := complement (union (complement s) (complement t))

/-- The members of `s` that are not in `t`. -/
def difference (s t : CharSet) : CharSet := intersect s (complement t)

/-- The members of exactly one of two sets. -/
def symmetricDifference (s t : CharSet) : CharSet :=
  union (difference s t) (difference t s)

/-- The surrogate code points, which are not characters. -/
def surrogates : CharSet := ⟨[(0xD800, 0xDFFF)]⟩

/-- The characters not in the set. -/
def negate (s : CharSet) : CharSet := difference (complement s) surrogates

/-- The set of a list of ranges of the same table. -/
def ofRanges (rs : List (Nat × Nat)) : CharSet := normalize rs

/-- The union of several sets. -/
def unionAll (sets : List CharSet) : CharSet := normalize (sets.flatMap (·.ranges))

/-- The set closed under simple case folding: every character whose folding equals the
folding of a member is added. A character is in a fold pair as the one folded or as the
target; the targets reached from the set name the classes to add in full. -/
def caseFold (s : CharSet) : CharSet :=
  let targets := foldTable.toList.filterMap fun (c, t) =>
    if s.contains c || s.contains t then some t else none
  let folded := CharSet.normalize (targets.map fun t => (t, t))
  let sources := foldTable.toList.filterMap fun (c, t) =>
    if folded.contains t then some (c, c) else none
  union s (union folded (normalize sources))

theorem any_append_ranges (xs ys : List (Nat × Nat)) (c : Nat) :
    (xs ++ ys).any (fun (lo, hi) => lo ≤ c && c ≤ hi) =
      (xs.any (fun (lo, hi) => lo ≤ c && c ≤ hi) || ys.any (fun (lo, hi) => lo ≤ c && c ≤ hi)) :=
  List.any_append

end CharSet

end Rollout.Pattern
