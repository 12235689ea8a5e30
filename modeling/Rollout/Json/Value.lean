import Rollout.Number.Rounding
import Rollout.Keyed
/-!
# JSON values

A number keeps the form it was read in: a natural number below `2 ^ 64`, a negative integer
not below `-2 ^ 63`, or a double for everything else (a fraction or exponent, an integer out
of those ranges, and `-0`). Decoders tell the three apart: only the first is a count, and a
double is reported with its own digits.

An object's fields form a keyed list (`Rollout.Keyed`): sorted by key, each key once, the
last of repeated keys winning. `Value.ofFields` builds one from fields in any order.
-/

namespace Rollout.Json

open Rollout.Number

/-- A JSON number, in the form it was read in. -/
inductive Number where
  /-- A natural number below `2 ^ 64`. -/
  | natural (n : Nat)
  /-- A negative integer not below `-2 ^ 63`. -/
  | negative (n : Int)
  /-- Any other number, as a finite double. -/
  | double (x : Binary64)
deriving DecidableEq, Inhabited

/-- A JSON value. -/
inductive Value where
  | null
  | bool (b : Bool)
  | number (n : Number)
  | string (s : String)
  | array (items : List Value)
  /-- Fields in ascending key order, each key once. -/
  | object (fields : List (String × Value))
deriving Inhabited

namespace Number

/-- The nearest double, as a numeric conversion to floating point gives it. -/
def toDouble : Number → Binary64
  | .natural n => Binary64.ofNat n
  | .negative n => Binary64.ofRatio true n.natAbs 1
  | .double x => x

/-- The number for an integer: natural or negative as its sign says. -/
def ofInt (n : Int) : Number :=
  if n < 0 then .negative n else .natural n.toNat

end Number

namespace Value

/-- An object from fields in any order; a repeated key keeps its last value. -/
def ofFields (fields : List (String × Value)) : Value := .object (Keyed.ofList fields)

/-- A natural number. -/
def nat (n : Nat) : Value := .number (.natural n)

/-- The value of a field of an object; `none` for a missing field or a value that is not an
object. -/
def get? (v : Value) (key : String) : Option Value :=
  match v with
  | .object fields => Keyed.get? key fields
  | _ => none

/-- The text of a string value. -/
def str? : Value → Option String
  | .string s => some s
  | _ => none

/-- The items of an array value. -/
def items? : Value → Option (List Value)
  | .array items => some items
  | _ => none

/-- The fields of an object value. -/
def fields? : Value → Option (List (String × Value))
  | .object fields => some fields
  | _ => none

/-- The natural number of a value that holds one. -/
def nat? : Value → Option Nat
  | .number (.natural n) => some n
  | _ => none

/-- The truth value of a boolean value. -/
def bool? : Value → Option Bool
  | .bool b => some b
  | _ => none

/-- Whether the value is `null`. -/
def isNull : Value → Bool
  | .null => true
  | _ => false

end Value

end Rollout.Json
