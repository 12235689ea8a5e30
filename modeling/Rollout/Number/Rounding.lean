import Rollout.Number.Binary64
/-!
# Rounding to the nearest double

`Binary64.ofRatio negative num den` is the double nearest to `num / den`, carrying the sign
`negative`: ties go to the even significand, and a magnitude past the largest finite double
becomes infinity. That is the rounding of IEEE 754 arithmetic, so a sum, product or quotient of
two finite doubles is computed here as an exact fraction and rounded once, which is what the
machine operation returns.

* `ofRatio_zero`: a zero numerator gives a zero of the requested sign.
-/

-- Powers of numbers use the core instance, whatever else is imported.
attribute [local instance(high)] instPowNat

namespace Rollout.Number

namespace Binary64

/-- Whether `num / den ≥ 2 ^ l`. -/
def ratioAtLeast (num den : Nat) (l : Int) : Bool :=
  match l with
  | .ofNat k => decide (den * 2 ^ k ≤ num)
  | .negSucc k => decide (den ≤ num * 2 ^ (k + 1))

/-- The exponent of the leading bit of `num / den`: the `l` with `2 ^ l ≤ num / den < 2 ^ (l + 1)`.
With `num` of `a + 1` bits and `den` of `b + 1` bits the ratio lies strictly between
`2 ^ (a - b - 1)` and `2 ^ (a - b + 1)`, so one comparison decides. -/
def leadingExponent (num den : Nat) : Int :=
  let l : Int := (Nat.log2 num : Int) - (Nat.log2 den : Int)
  if ratioAtLeast num den l then l else l - 1

/-- The integer nearest to `n / d`, a tie going to the even one. -/
def roundHalfEven (n d : Nat) : Nat :=
  let q := n / d
  let r := n % d
  if d < 2 * r ∨ (2 * r = d ∧ q % 2 = 1) then q + 1 else q

/-- The double nearest to `num / den` with the sign `negative`, ties to even. The significand is
taken at the exponent that leaves it 53 bits long, or at the least exponent for a subnormal. -/
def ofRatio (negative : Bool) (num den : Nat) : Binary64 :=
  if num = 0 then ofFields negative 0 0
  else if den = 0 then infinity negative
  else
    let q : Int := max (leadingExponent num den - 52) (-1074)
    let m := match q with
      | .ofNat k => roundHalfEven num (den * 2 ^ k)
      | .negSucc k => roundHalfEven (num * 2 ^ (k + 1)) den
    -- rounding up may carry into a 54th bit
    let (m, q) := if m = 2 ^ (53 : Nat) then (2 ^ (52 : Nat), q + 1) else (m, q)
    if m < 2 ^ (52 : Nat) then ofFields negative 0 m
    else if 2047 ≤ q + 1075 then infinity negative
    else ofFields negative (q + 1075).toNat (m - 2 ^ (52 : Nat))

/-- The double nearest to a natural number. -/
def ofNat (n : Nat) : Binary64 := ofRatio false n 1

/-- The exact value of a finite double as a signed fraction. -/
def toRatio (x : Binary64) : Int × Nat :=
  let (n, d) := x.magnitude
  (if x.negative then -(n : Int) else n, d)

/-- The double nearest to the signed fraction `n / d`; an exact zero is positive. -/
def ofSignedRatio (n : Int) (d : Nat) : Binary64 :=
  ofRatio (decide (n < 0)) n.natAbs d

/-- Sum, as the machine computes it. Two infinities of opposite sign give NaN. -/
def add (x y : Binary64) : Binary64 :=
  if x.isNaN || y.isNaN then nan
  else if x.isInfinite && y.isInfinite then (if x.negative == y.negative then x else nan)
  else if x.isInfinite then x
  else if y.isInfinite then y
  else if x.isZero && y.isZero then (if x.negative && y.negative then x else zero)
  else
    let (a, b) := x.toRatio
    let (c, d) := y.toRatio
    ofSignedRatio (a * d + c * b) (b * d)

/-- Product, as the machine computes it. Zero times infinity gives NaN. -/
def mul (x y : Binary64) : Binary64 :=
  let negative := x.negative != y.negative
  if x.isNaN || y.isNaN then nan
  else if x.isInfinite || y.isInfinite then
    (if x.isZero || y.isZero then nan else infinity negative)
  else
    let (a, b) := x.magnitude
    let (c, d) := y.magnitude
    ofRatio negative (a * c) (b * d)

/-- Quotient, as the machine computes it. Division of a nonzero value by zero gives infinity. -/
def div (x y : Binary64) : Binary64 :=
  let negative := x.negative != y.negative
  if x.isNaN || y.isNaN then nan
  else if x.isInfinite then (if y.isInfinite then nan else infinity negative)
  else if y.isInfinite then ofFields negative 0 0
  else if y.isZero then (if x.isZero then nan else infinity negative)
  else
    let (a, b) := x.magnitude
    let (c, d) := y.magnitude
    ofRatio negative (a * d) (b * c)

theorem ofRatio_zero (negative : Bool) (den : Nat) :
    ofRatio negative 0 den = ofFields negative 0 0 := by
  simp [ofRatio]

end Binary64

end Rollout.Number
