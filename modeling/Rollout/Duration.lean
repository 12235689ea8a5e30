import Rollout.Number.Rounding
/-!
# Durations

A duration is a whole number of nanoseconds. One given in seconds as a double is rounded to
the nearest nanosecond, a half going to the even one; a negative value (other than `-0`), NaN,
an infinity or a value of `2 ^ 64` seconds or more has no duration. Reading a duration back in
seconds adds the whole seconds to the nanoseconds divided by `10 ^ 9`, each step rounded to a
double.

* `ofSecondsDouble?_nan`: NaN has no duration.
-/

-- Powers of numbers use the core instance, whatever else is imported.
attribute [local instance(high)] instPowNat

namespace Rollout.Duration

open Rollout.Number

/-- Nanoseconds in a second. -/
def nanosPerSecond : Nat := 1000000000

/-- Nanoseconds in a millisecond. -/
def nanosPerMilli : Nat := 1000000

/-- The duration of a number of seconds given as a double. -/
def ofSecondsDouble? (x : Binary64) : Option Nat :=
  if x.isNaN || x.isInfinite then none
  else if x.negative && !x.isZero then none
  else
    let (n, d) := x.magnitude
    if 2 ^ (64 : Nat) * d ≤ n then none
    else some (Binary64.roundHalfEven (n * nanosPerSecond) d)

/-- The seconds of a duration as a double. -/
def toSecondsDouble (nanos : Nat) : Binary64 :=
  (Binary64.ofNat (nanos / nanosPerSecond)).add
    ((Binary64.ofNat (nanos % nanosPerSecond)).div (Binary64.ofNat nanosPerSecond))

/-- Whole milliseconds of a duration. -/
def toMillis (nanos : Nat) : Nat := nanos / nanosPerMilli

theorem ofSecondsDouble?_nan {x : Binary64} (h : x.isNaN = true) : ofSecondsDouble? x = none := by
  simp [ofSecondsDouble?, h]

end Rollout.Duration
