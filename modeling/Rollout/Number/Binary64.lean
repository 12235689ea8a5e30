/-!
# Binary64 values

A double-precision value is kept as its 64-bit pattern: sign bit, 11-bit biased exponent and
52-bit fraction. Finite values are `significand * 2 ^ exponent` exactly, with the hidden bit
added for normal values; this exact reading is what the decimal printers round from.

* `significand_pos`: a value that is not zero has a positive significand.
-/

-- Powers of numbers use the core instance, whatever else is imported.
attribute [local instance(high)] instPowNat

namespace Rollout.Number

/-- A double-precision value, by its bit pattern. -/
structure Binary64 where
  bits : UInt64
deriving DecidableEq, Inhabited

namespace Binary64

/-- The value as the machine's floating-point type. -/
def toFloat (x : Binary64) : Float := Float.ofBits x.bits

/-- The machine's floating-point value, by its bits. -/
def ofFloat (f : Float) : Binary64 := ⟨f.toBits⟩

/-- Whether the sign bit is set (also for negative zero and NaN). -/
def negative (x : Binary64) : Bool := x.bits >>> 63 == 1

/-- The 11-bit biased exponent field. -/
def biasedExponent (x : Binary64) : Nat := ((x.bits >>> 52) &&& 0x7FF).toNat

/-- The 52-bit fraction field. -/
def fraction (x : Binary64) : Nat := (x.bits &&& 0xFFFFFFFFFFFFF).toNat

/-- Not a number. -/
def isNaN (x : Binary64) : Bool := x.biasedExponent == 2047 && x.fraction != 0

/-- Positive or negative infinity. -/
def isInfinite (x : Binary64) : Bool := x.biasedExponent == 2047 && x.fraction == 0

/-- Neither infinite nor NaN. -/
def isFinite (x : Binary64) : Bool := x.biasedExponent != 2047

/-- Positive or negative zero. -/
def isZero (x : Binary64) : Bool := x.biasedExponent == 0 && x.fraction == 0

/-- The integer significand: the fraction, with the hidden bit for normal values. -/
def significand (x : Binary64) : Nat :=
  if x.biasedExponent == 0 then x.fraction else x.fraction + 2 ^ (52 : Nat)

/-- The binary exponent of the last significand bit. -/
def exponent (x : Binary64) : Int :=
  if x.biasedExponent == 0 then -1074 else (x.biasedExponent : Int) - 1075

/-- The value with the sign bit cleared. -/
def abs (x : Binary64) : Binary64 := ⟨x.bits &&& 0x7FFFFFFFFFFFFFFF⟩

/-- The value with the sign bit flipped. -/
def neg (x : Binary64) : Binary64 := ⟨x.bits ^^^ 0x8000000000000000⟩

/-- Positive zero. -/
def zero : Binary64 := ⟨0⟩

/-- The value with the given sign, biased exponent and fraction fields. -/
def ofFields (negative : Bool) (biased fraction : Nat) : Binary64 :=
  ⟨UInt64.ofNat ((if negative then 2 ^ (63 : Nat) else 0) + biased * 2 ^ (52 : Nat) + fraction)⟩

/-- Infinity of the given sign. -/
def infinity (negative : Bool) : Binary64 := ofFields negative 2047 0

/-- The quiet NaN that arithmetic produces. -/
def nan : Binary64 := ofFields false 2047 (2 ^ (51 : Nat))

/-- The exact magnitude of a finite value as a fraction `num / den` with `den` a power of two. -/
def magnitude (x : Binary64) : Nat × Nat :=
  match x.exponent with
  | .ofNat e => (x.significand * 2 ^ e, 1)
  | .negSucc e => (x.significand, 2 ^ (e + 1))

/-- A normal or subnormal value that is not zero has a positive significand. -/
theorem significand_pos (x : Binary64) (h : x.isZero = false) : 0 < x.significand := by
  unfold significand
  unfold isZero at h
  split
  · rename_i hb
    simp only [hb, Bool.and_eq_false_iff] at h
    rcases h with h | h
    · simp_all
    · simp at h; omega
  · omega

end Binary64

end Rollout.Number
