/-!
# Tables of code point ranges

A character property is kept as a sorted array of closed, disjoint ranges of code points.
Tables are written once as text, `lo-hi` pairs in hexadecimal separated by commas, because a
string literal costs the elaborator far less than an array literal of the same size.

A labelled table gives each range a name as well, written `lo-hi:name`; a map of code points
is written as `from:to` pairs.

* `RangeTable.contains` is a binary search over the ranges.
* `RangeTable.mem_of_contains`: a positive answer names a range that holds the code point.
-/

namespace Rollout.Text

/-- A character property as sorted, disjoint, closed ranges of code points. -/
structure RangeTable where
  ranges : Array (Nat × Nat)
deriving Inhabited

namespace RangeTable

/-- The value of a hexadecimal digit, if the character is one. -/
def hexDigit? (c : Char) : Option Nat :=
  if '0' ≤ c ∧ c ≤ '9' then some (c.toNat - '0'.toNat)
  else if 'a' ≤ c ∧ c ≤ 'f' then some (c.toNat - 'a'.toNat + 10)
  else if 'A' ≤ c ∧ c ≤ 'F' then some (c.toNat - 'A'.toNat + 10)
  else none

/-- Reads a hexadecimal numeral; characters that are not digits are skipped. -/
def hexValue (s : String) : Nat :=
  s.toList.foldl (fun acc c => match hexDigit? c with
    | some d => acc * 16 + d
    | none => acc) 0

/-- Reads one `lo-hi` pair. -/
def pairOfHex (s : String) : Option (Nat × Nat) :=
  match s.splitOn "-" with
  | [lo, hi] => some (hexValue lo, hexValue hi)
  | _ => none

/-- Reads a table written as comma-separated `lo-hi` pairs. -/
def ofHex (s : String) : RangeTable :=
  ⟨((s.splitOn ",").filterMap pairOfHex).toArray⟩

/-- Whether the code point `n` lies in one of the ranges. The search keeps the invariant that
every range before `lo` ends below `n` and every range from `hi` on starts above it. -/
def contains (t : RangeTable) (n : Nat) : Bool :=
  go 0 t.ranges.size
where
  go (lo hi : Nat) : Bool :=
    if _h : lo < hi then
      match t.ranges[(lo + hi) / 2]? with
      | some (a, b) =>
        if n < a then go lo ((lo + hi) / 2)
        else if b < n then go ((lo + hi) / 2 + 1) hi
        else true
      | none => false
    else false
  termination_by hi - lo

/-- A character belongs to the table when its code point does. -/
def containsChar (t : RangeTable) (c : Char) : Bool :=
  t.contains c.toNat

theorem contains_go_sound (t : RangeTable) (n : Nat) :
    ∀ lo hi, contains.go t n lo hi = true → ∃ r ∈ t.ranges.toList, r.1 ≤ n ∧ n ≤ r.2 := by
  intro lo hi h
  induction lo, hi using contains.go.induct t n with
  | case1 lo hi hlt a b hget hna ih =>
    rw [contains.go, dif_pos hlt, hget] at h
    simp only [hna, if_true] at h
    exact ih h
  | case2 lo hi hlt a b hget hna hbn ih =>
    rw [contains.go, dif_pos hlt, hget] at h
    simp only [hna, hbn, if_true, if_false] at h
    exact ih h
  | case3 lo hi hlt a b hget hna hbn =>
    exact ⟨(a, b), Array.mem_toList_iff.mpr (Array.mem_of_getElem? hget),
      by simpa using hna, by simpa using hbn⟩
  | case4 lo hi hlt hget =>
    rw [contains.go, dif_pos hlt, hget] at h
    simp at h
  | case5 lo hi hlt =>
    rw [contains.go, dif_neg hlt] at h
    simp at h

/-- **A positive answer is witnessed by a range of the table.** -/
theorem mem_of_contains {t : RangeTable} {n : Nat} (h : t.contains n = true) :
    ∃ r ∈ t.ranges.toList, r.1 ≤ n ∧ n ≤ r.2 :=
  contains_go_sound t n 0 t.ranges.size h

end RangeTable

/-- Ranges of code points, each with a label, sorted and disjoint. -/
structure LabelledTable where
  entries : Array (Nat × Nat × String)
deriving Inhabited

namespace LabelledTable

/-- Reads one `lo-hi:label` entry. -/
def entryOfHex (s : String) : Option (Nat × Nat × String) :=
  match s.splitOn ":" with
  | [r, label] => (RangeTable.pairOfHex r).map fun (lo, hi) => (lo, hi, label)
  | _ => none

/-- Reads a table written as comma-separated `lo-hi:label` entries. -/
def ofHex (s : String) : LabelledTable :=
  ⟨((s.splitOn ",").filterMap entryOfHex).toArray⟩

/-- The ranges whose label passes a test, in order. -/
def rangesWhere (t : LabelledTable) (p : String → Bool) : List (Nat × Nat) :=
  t.entries.toList.filterMap fun (lo, hi, label) => if p label then some (lo, hi) else none

/-- All ranges of the table, in order. -/
def ranges (t : LabelledTable) : List (Nat × Nat) :=
  t.rangesWhere fun _ => true

end LabelledTable

/-- Reads a map of code points written as comma-separated `from:to` pairs. -/
def pairsOfHex (s : String) : Array (Nat × Nat) :=
  ((s.splitOn ",").filterMap fun e => match e.splitOn ":" with
    | [a, b] => some (RangeTable.hexValue a, RangeTable.hexValue b)
    | _ => none).toArray

end Rollout.Text
