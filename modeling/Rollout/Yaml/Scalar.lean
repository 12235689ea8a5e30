import Rollout.Json.Shape
import Rollout.Number.Decimal
import Rollout.Yaml.Token
/-!
# What a scalar means

A plain scalar without a tag is read by its text: empty, `~` and `null` in three spellings
are null; `true` and `false` in three spellings are booleans; then integers (decimal, and
`0x`, `0o`, `0b` with an optional sign), first as unsigned and signed 64-bit numbers, then as
128-bit ones; then finite floating point numbers, with `.inf` and `.nan` in three spellings
(a finite text that overflows stays text); anything else is a string. Decimal digits with a
leading zero (`007`) are a string, not a number.

A quoted or block scalar is a string. The core tags `!!bool`, `!!int`, `!!float` and `!!null`
force their reading, and text that does not fit is a mismatch; a local tag (`!name`) on a
plain scalar leaves it to be read by its text, and any other tag makes it a string.

* `untagged_null`: the empty text is null.
-/

-- Powers of numbers use the core instance, whatever else is imported.
attribute [local instance(high)] instPowNat

namespace Rollout.Yaml

open Rollout.Number Rollout.Json

/-- The meaning of a scalar. -/
inductive Plain where
  | null
  | bool (b : Bool)
  /-- An integer that fits in 64 bits unsigned. -/
  | unsigned (n : Nat)
  /-- A negative integer, or minus zero, that fits in 64 bits signed. -/
  | signed (n : Int)
  /-- A larger integer that fits in 128 bits unsigned. -/
  | wideUnsigned (n : Nat)
  /-- A larger integer that fits in 128 bits signed. -/
  | wideSigned (n : Int)
  | float (x : Binary64)
  | str (s : String)
deriving Inhabited

namespace Plain

/-- The spellings of null. -/
def isNullWord (s : String) : Bool := s == "~" || s == "null" || s == "Null" || s == "NULL"

/-- The spellings of the booleans. -/
def bool? (s : String) : Option Bool :=
  if s == "true" || s == "True" || s == "TRUE" then some true
  else if s == "false" || s == "False" || s == "FALSE" then some false
  else none

/-- The value of a digit in bases up to 36. -/
def digitValue (c : Char) : Option Nat :=
  if '0' ≤ c && c ≤ '9' then some (c.toNat - '0'.toNat)
  else if 'a' ≤ c && c ≤ 'z' then some (c.toNat - 'a'.toNat + 10)
  else if 'A' ≤ c && c ≤ 'Z' then some (c.toNat - 'A'.toNat + 10)
  else none

/-- The value of a non-empty run of digits in a base. -/
def digits? (radix : Nat) (cs : List Char) : Option Nat :=
  if cs.isEmpty then none
  else cs.foldlM (fun acc c => (digitValue c).bind fun d =>
    if d < radix then some (acc * radix + d) else none) 0

/-- An unsigned number of `bits` bits in a base, with an optional `+`. -/
def unsignedIn (radix bits : Nat) (s : String) : Option Nat :=
  let cs := match s.toList with
    | '+' :: rest => rest
    | cs => cs
  (digits? radix cs).filter (· < 2 ^ bits)

/-- A signed number of `bits` bits in a base, with an optional sign. -/
def signedIn (radix bits : Nat) (s : String) : Option Int :=
  match s.toList with
  | '-' :: rest => (digits? radix rest).bind fun n =>
    if n ≤ 2 ^ (bits - 1) then some (-(n : Int)) else none
  | '+' :: rest => (digits? radix rest).bind fun n =>
    if n < 2 ^ (bits - 1) then some (n : Int) else none
  | cs => (digits? radix cs).bind fun n =>
    if n < 2 ^ (bits - 1) then some (n : Int) else none

/-- Digits after a leading zero, with an optional sign: text that looks like a number but is
not one. -/
def digitsButNotNumber (s : String) : Bool :=
  let cs := match s.toList with
    | '-' :: rest => rest
    | '+' :: rest => rest
    | cs => cs
  match cs with
  | '0' :: rest@(_ :: _) => rest.all fun c => '0' ≤ c && c ≤ '9'
  | _ => false

/-- Whether a text starts with a sign. -/
def signed? (s : String) : Bool := s.startsWith "+" || s.startsWith "-"

/-- A non-negative integer of `bits` bits: hexadecimal, octal or binary after `0x`, `0o`,
`0b`, else decimal, all with an optional `+`. -/
def unsignedInt? (bits : Nat) (s : String) : Option Nat :=
  let unpositive := if s.startsWith "+" then (s.drop 1).toString else s
  let prefixed (pre : String) (radix : Nat) : Option (Option Nat) :=
    if unpositive.startsWith pre then
      let rest := (unpositive.drop 2).toString
      if signed? rest then some none
      else (unsignedIn radix bits rest).map some
    else none
  match prefixed "0x" 16 with
  | some r => r
  | none =>
  match prefixed "0o" 8 with
  | some r => r
  | none =>
  match prefixed "0b" 2 with
  | some r => r
  | none =>
    if signed? unpositive || digitsButNotNumber s then none
    else unsignedIn 10 bits unpositive

/-- A negative integer of `bits` bits: hexadecimal, octal or binary after `-0x`, `-0o`,
`-0b`, else decimal. -/
def negativeInt? (bits : Nat) (s : String) : Option Int :=
  let prefixed (pre : String) (radix : Nat) : Option Int :=
    if s.startsWith pre then signedIn radix bits ("-" ++ (s.drop 3).toString) else none
  match prefixed "-0x" 16 with
  | some n => some n
  | none =>
  match prefixed "-0o" 8 with
  | some n => some n
  | none =>
  match prefixed "-0b" 2 with
  | some n => some n
  | none => if digitsButNotNumber s then none else signedIn 10 bits s

/-- A floating point number: `.inf`, `.nan` in their spellings, or the text of a finite
number. -/
def float? (s : String) : Option Binary64 :=
  let plus := s.startsWith "+"
  let u := if plus then (s.drop 1).toString else s
  if plus && signed? u then none
  else if u == ".inf" || u == ".Inf" || u == ".INF" then some (Binary64.infinity false)
  else if s == "-.inf" || s == "-.Inf" || s == "-.INF" then some (Binary64.infinity true)
  else if s == ".nan" || s == ".NaN" || s == ".NAN" then some Binary64.nan
  else (Binary64.parse? u).filter Binary64.isFinite

/-- An integer, in the order of the readings tried. -/
def int? (s : String) : Option Plain :=
  match unsignedInt? 64 s with
  | some n => some (.unsigned n)
  | none =>
  match negativeInt? 64 s with
  | some n => some (.signed n)
  | none =>
  match unsignedInt? 128 s with
  | some n => some (.wideUnsigned n)
  | none => (negativeInt? 128 s).map .wideSigned

/-- The meaning of an untagged plain scalar. -/
def untagged (s : String) : Plain :=
  if s.isEmpty || isNullWord s then .null
  else match bool? s with
    | some b => .bool b
    | none =>
      match int? s with
      | some p => p
      | none =>
        match (if digitsButNotNumber s then none else float? s) with
        | some x => .float x
        | none => .str s

theorem untagged_null : untagged "" = .null := by
  simp [untagged]

/-- The core tags. -/
def boolTag : String := "tag:yaml.org,2002:bool"

/-- The core tag of integers. -/
def intTag : String := "tag:yaml.org,2002:int"

/-- The core tag of floating point numbers. -/
def floatTag : String := "tag:yaml.org,2002:float"

/-- The core tag of null. -/
def nullTag : String := "tag:yaml.org,2002:null"

/-- The meaning of a scalar with its tag and style; a core tag whose reading does not fit
the text is a mismatch. -/
def ofScalar (tag : Option String) (text : String) (style : ScalarStyle) : Except Mismatch Plain :=
  match tag with
  | some t =>
    if t == boolTag then
      match bool? text with
      | some b => .ok (.bool b)
      | none => .error (.invalidValue (.str text) "a boolean")
    else if t == intTag then
      match int? text with
      | some p => .ok p
      | none => .error (.invalidValue (.str text) "an integer")
    else if t == floatTag then
      match float? text with
      | some x => .ok (.float x)
      | none => .error (.invalidValue (.str text) "a float")
    else if t == nullTag then
      if isNullWord text then .ok .null else .error (.invalidValue (.str text) "null")
    else if t.startsWith "!" && style == .plain then .ok (untagged text)
    else .ok (.str text)
  | none => .ok (if style == .plain then untagged text else .str text)

/-- How a mismatch describes the scalar. -/
def found : Plain → Found
  | .null => .unit
  | .bool b => .bool b
  | .unsigned n => .unsigned n
  | .signed n => .signed n
  | .wideUnsigned n => .other ("integer `" ++ toString n ++ "` as u128")
  | .wideSigned n => .other ("integer `" ++ toString n ++ "` as i128")
  | .float x => .float x
  | .str s => .str s

/-- The scalar as a JSON value: infinite and NaN floats become null, and an integer beyond
64 bits is out of range. -/
def toValue : Plain → Except String Value
  | .null => .ok .null
  | .bool b => .ok (.bool b)
  | .unsigned n => .ok (.number (.natural n))
  | .signed n => .ok (.number (Number.ofInt n))
  | .wideUnsigned _ | .wideSigned _ => .error "JSON number out of range"
  | .float x => .ok (if x.isFinite then .number (.double x) else .null)
  | .str s => .ok (.string s)

end Plain

end Rollout.Yaml
