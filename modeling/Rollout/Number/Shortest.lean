import Rollout.Number.Binary64

/-!
# Shortest decimal form of a double

Every real number between the midpoints to a double's two neighbours reads back as that double
(the midpoints themselves do when the significand is even). The shortest decimal form is the
one with the fewest significant digits inside that interval; of several, the one nearest the
exact value, and of two equally near, the larger.

The search walks the decimal grids `10 ^ p` from the largest power below the top of the
interval downwards. On each grid it asks which multiples of `10 ^ p` fall inside; the first
grid with one wins. All comparisons are exact, on natural numbers: a multiple `d * 10 ^ p` is
compared with an interval end `X * 2 ^ q` after both sides are multiplied by the powers that
clear the negative exponents.

* `Digits`: a decimal `mantissa * 10 ^ exp`.
* `shortest`: the form described above, for a finite non-zero double.
-/

-- Powers of numbers use the core instance, whatever else is imported.
attribute [local instance(high)] instPowNat

namespace Rollout.Number

/-- A decimal number `mantissa * 10 ^ exp` with a positive mantissa. -/
structure Digits where
  mantissa : Nat
  exp : Int
deriving DecidableEq, Inhabited

namespace Digits

/-- The decimal digits of the mantissa, most significant first. -/
def digitString (d : Digits) : String := toString d.mantissa

/-- The number of digits of the mantissa. -/
def length (d : Digits) : Nat := d.digitString.length

/-- The position of the decimal point counted from the first digit: the value lies in
`[10 ^ (point - 1), 10 ^ point)`. -/
def point (d : Digits) : Int := (d.length : Int) + d.exp

end Digits

/-- The rounding interval of a double, scaled: the ends are `low * 2 ^ q` and `high * 2 ^ q`,
the value itself `mid * 2 ^ q`; `closed` says whether the ends belong to it. -/
structure Interval where
  low : Nat
  mid : Nat
  high : Nat
  q : Int
  closed : Bool

/-- The rounding interval of a finite, non-zero double. The gap below is half as wide when the
significand is the smallest of a normal binade above the first. -/
def Binary64.interval (x : Binary64) : Interval :=
  let m := x.significand
  let tight := x.fraction == 0 && x.biasedExponent > 1
  { low := 4 * m - (if tight then 1 else 2), mid := 4 * m, high := 4 * m + 2,
    q := x.exponent - 2, closed := m % 2 == 0 }

/-- `2 ^ n` for an integer `n ≥ 0`, and `1` below. -/
def pow2 (n : Int) : Nat := 2 ^ n.toNat

/-- `10 ^ n` for an integer `n ≥ 0`, and `1` below. -/
def pow10 (n : Int) : Nat := 10 ^ n.toNat

/-- Multipliers that compare `d * 10 ^ p` with `X * 2 ^ q` in natural numbers: the first
multiplies `d`, the second `X`. -/
def Interval.scales (i : Interval) (p : Int) : Nat × Nat :=
  (pow10 p * pow2 (-i.q), pow2 i.q * pow10 (-p))

/-- Whether `10 ^ p` lies at or below the top of the interval. -/
def Interval.reaches (i : Interval) (p : Int) : Bool :=
  let (a, b) := i.scales p
  a ≤ i.high * b

/-- The least mantissa on grid `p` inside the interval. -/
def Interval.firstOn (i : Interval) (p : Int) : Nat :=
  let (a, b) := i.scales p
  let lo := i.low * b
  if i.closed then (lo + a - 1) / a else lo / a + 1

/-- The greatest mantissa on grid `p` inside the interval. -/
def Interval.lastOn (i : Interval) (p : Int) : Nat :=
  let (a, b) := i.scales p
  let hi := i.high * b
  if i.closed then hi / a else (hi + a - 1) / a - 1

/-- Of the mantissas `lo..hi` on grid `p`, the one nearest the value; a tie goes up. -/
def Interval.nearestOn (i : Interval) (p : Int) (lo hi : Nat) : Nat :=
  let (a, b) := i.scales p
  let t := i.mid * b
  let f := t / a
  let r := t % a
  let best := if 2 * r < a then f else f + 1
  if best < lo then lo else if hi < best then hi else best

/-- The largest `p` with `10 ^ p` at or below the top of the interval, searched downwards from
`start` for at most `fuel` steps. -/
def Interval.topGrid (i : Interval) : Nat → Int → Int
  | 0, p => p
  | fuel + 1, p => if i.reaches p then p else i.topGrid fuel (p - 1)

/-- Walks the grids downwards from `p`; the first one holding a multiple inside the interval
gives the answer. -/
def Interval.search (i : Interval) : Nat → Int → Digits
  | 0, p => ⟨i.mid, p⟩
  | fuel + 1, p =>
    let lo := i.firstOn p
    let hi := i.lastOn p
    if lo ≤ hi ∧ 0 < hi then ⟨i.nearestOn p lo hi, p⟩ else i.search fuel (p - 1)

/-- An upper estimate of the decimal exponent of the top of the interval. -/
def Interval.estimate (i : Interval) : Int :=
  ((Nat.log2 i.high : Int) + i.q) * 30103 / 100000 + 2

/-- Strips the trailing zeros of a mantissa into the exponent. -/
def Digits.normalize : Nat → Digits → Digits
  | 0, d => d
  | fuel + 1, d =>
    if d.mantissa % 10 == 0 ∧ d.mantissa ≠ 0 then
      Digits.normalize fuel ⟨d.mantissa / 10, d.exp + 1⟩
    else d

/-- **The shortest decimal form** of a finite, non-zero double (of its magnitude). -/
def Binary64.shortest (x : Binary64) : Digits :=
  let i := x.interval
  let top := i.topGrid 700 i.estimate
  Digits.normalize 400 (i.search 40 top)

end Rollout.Number
