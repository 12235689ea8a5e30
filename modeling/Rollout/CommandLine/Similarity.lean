import Rollout.Number.Rounding
/-!
# Similar names

A name that is not known is compared with the known ones by the Jaro similarity of the two
texts, and the known names that score above `0.7` are offered instead, the best last.

The Jaro similarity of `a` and `b` counts the characters of `a` that match a character of `b`
no further away than half the longer length, less one, each character of `b` matching at most
once and the first free one taken. With `m` matches, of which `t` stand in a different order
(half the places where the two sequences of matched characters differ), the similarity is
`(m / |a| + m / |b| + (m - t) / m) / 3`. It is computed in double precision, each operation
rounded, so that scores that tie or sit on the threshold are decided as the arithmetic of
doubles decides them.

* `similar_nil`: with no known names nothing is offered.
-/

namespace Rollout.CommandLine

open Rollout.Number

/-- The matched characters of `a`, in their order in `a`, and those of `b`, in their order
in `b`. -/
def matchedChars (a b : List Char) : List Char × List Char :=
  let bs := b.toArray
  let range := max a.length b.length / 2 - 1
  let (taken, fromA) := a.zipIdx.foldl (fun (taken, acc) (c, i) =>
      let lo := i - range
      let hi := min bs.size (i + range + 1)
      match (List.range' lo (hi - lo)).find? (fun j => bs[j]? == some c && taken[j]? == some false) with
      | some j => (taken.setIfInBounds j true, acc.push c)
      | none => (taken, acc)) (Array.replicate bs.size false, #[])
  (fromA.toList, (b.zip taken.toList).filterMap fun (c, t) => if t then some c else none)

/-- The double nearest to a natural number. -/
def double (n : Nat) : Binary64 := Binary64.ofNat n

/-- The Jaro similarity of two texts, in double precision. -/
def jaro (a b : String) : Binary64 :=
  let as := a.toList
  let bs := b.toList
  if as.isEmpty && bs.isEmpty then double 1
  else if as.isEmpty || bs.isEmpty then double 0
  else
    let (ma, mb) := matchedChars as bs
    let m := ma.length
    if m = 0 then double 0
    else
      let t := ((ma.zip mb).filter fun (x, y) => x != y).length / 2
      let sum := (((double m).div (double as.length)).add ((double m).div (double bs.length))).add
        ((double (m - t)).div (double m))
      sum.div (double 3)

/-- Whether one finite double is less than another. -/
def below (x y : Binary64) : Bool :=
  let (a, b) := x.toRatio
  let (c, d) := y.toRatio
  decide (a * (d : Int) < c * (b : Int))

/-- The least score that counts as similar is anything above this one. -/
def threshold : Binary64 := Binary64.ofRatio false 7 10

/-- The known names similar to `name`, from the least similar to the most; names that score
the same keep their order. -/
def similar (name : String) (known : List String) : List String :=
  let scored := known.filterMap fun k =>
    let s := jaro name k
    if below threshold s then some (s, k) else none
  (scored.mergeSort fun x y => !below y.1 x.1).map (·.2)

theorem similar_nil (name : String) : similar name [] = [] := by
  simp [similar]

end Rollout.CommandLine
