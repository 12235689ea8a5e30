/-!
# Reading integers

An integer numeral is read from left to right: an optional sign (a lone sign is no numeral, and
a minus sign only where negative values are allowed), then decimal digits, with the bounds
checked after every digit. The first fault met decides the error, so an overflow early in a
long numeral wins over a bad character after it.

* `accumulate_digit`: a digit that keeps the value within the bound extends it.
-/

-- Powers of numbers use the core instance, whatever else is imported.
attribute [local instance(high)] instPowNat

namespace Rollout.Number

/-- Why a text is not an integer of the wanted range. -/
inductive IntegerError
  | empty
  | invalidDigit
  | tooLarge
  | tooSmall
deriving DecidableEq, Repr

/-- The usual wording of each fault. -/
def IntegerError.message : IntegerError → String
  | .empty => "cannot parse integer from empty string"
  | .invalidDigit => "invalid digit found in string"
  | .tooLarge => "number too large to fit in target type"
  | .tooSmall => "number too small to fit in target type"

/-- The value of a decimal digit. -/
def digitValue? (c : Char) : Option Nat :=
  if '0' ≤ c ∧ c ≤ '9' then some (c.toNat - '0'.toNat) else none

/-- Accumulates digits into `acc`, failing at the first non-digit or once `acc` passes `bound`;
`tooBig` is the error for passing it. -/
def accumulate (bound : Nat) (tooBig : IntegerError) : Nat → List Char → Except IntegerError Nat
  | acc, [] => .ok acc
  | acc, c :: rest =>
    match digitValue? c with
    | none => .error .invalidDigit
    | some d =>
      let next := acc * 10 + d
      if next > bound then .error tooBig else accumulate bound tooBig next rest

/-- Reads a natural number no larger than `bound`; a leading `+` is allowed. -/
def parseNat (bound : Nat) (s : String) : Except IntegerError Nat :=
  match s.toList with
  | [] => .error .empty
  | ['+'] => .error .invalidDigit
  | ['-'] => .error .invalidDigit
  | '+' :: rest => accumulate bound .tooLarge 0 rest
  | cs => accumulate bound .tooLarge 0 cs

/-- Reads an integer in `[-lowBound, highBound]`; a leading `+` or `-` is allowed. -/
def parseInt (lowBound highBound : Nat) (s : String) : Except IntegerError Int :=
  match s.toList with
  | [] => .error .empty
  | ['+'] => .error .invalidDigit
  | ['-'] => .error .invalidDigit
  | '-' :: rest => (accumulate lowBound .tooSmall 0 rest).map (fun n => -(n : Int))
  | '+' :: rest => (accumulate highBound .tooLarge 0 rest).map (fun n => (n : Int))
  | cs => (accumulate highBound .tooLarge 0 cs).map (fun n => (n : Int))

/-- The largest value of an unsigned 64-bit word. -/
def u64Max : Nat := 2 ^ (64 : Nat) - 1

/-- Reads an unsigned 64-bit value. -/
def parseU64 (s : String) : Except IntegerError Nat := parseNat u64Max s

theorem accumulate_digit (bound : Nat) (tooBig : IntegerError) (acc d : Nat) (c : Char)
    (rest : List Char) (hc : digitValue? c = some d) (hb : acc * 10 + d ≤ bound) :
    accumulate bound tooBig acc (c :: rest) = accumulate bound tooBig (acc * 10 + d) rest := by
  simp [accumulate, hc, Nat.not_lt.mpr hb]

end Rollout.Number
