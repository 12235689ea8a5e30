import Rollout.Json.Value
import Rollout.Number.Render
import Rollout.Text.Quote
/-!
# Shapes of documents and what a mismatch says

A `Shape` is what a reader expects to find: free JSON, a string, a boolean, a double, a bounded
natural number, a list, a keyed map, a record of named fields, the first of several shapes that
fits, an optional value, or a shape whose value must pass a further check. Every reader of this
library (of values, of JSON text, of YAML) decodes against a shape and reports a mismatch as a
`Mismatch`, whose wording is fixed here once for all of them.

A record field may have aliases; it may be required, optional (absent means `null`), or have a
default. A record is closed when a field that it does not name is an error.

A mismatch names what was found (`Found`), so the text of a found value is a part of the
wording: readers of JSON call the unit value `null` and write doubles in JSON notation, other
readers say `unit value` and write doubles in plain notation with a `.0`.
-/

-- Powers of numbers use the core instance, whatever else is imported.
attribute [local instance(high)] instPowNat

namespace Rollout.Json

open Rollout.Number

/-- What a reader found where the shape wanted something else. -/
inductive Found where
  | bool (b : Bool)
  | unsigned (n : Nat)
  | signed (n : Int)
  | float (x : Binary64)
  | str (s : String)
  | unit
  | seq
  | map
  | enum
  /-- Anything else, described in its own words. -/
  | other (text : String)
deriving Inhabited

/-- How found values are worded: the name of the unit value and the text of a double. -/
structure Wording where
  unit : String
  float : Binary64 → String

/-- A double in plain notation, with `.0` added when there is no decimal point. -/
def withDecimalPoint (x : Binary64) : String :=
  let t := x.render Style.plain
  if x.isFinite && !t.contains '.' then t ++ ".0" else t

namespace Wording

/-- The wording of readers of JSON. -/
def json : Wording := ⟨"null", Binary64.render Style.json⟩

/-- The wording of other readers. -/
def general : Wording := ⟨"unit value", withDecimalPoint⟩

end Wording

/-- The description of a found value. -/
def Found.describe (w : Wording) : Found → String
  | .bool b => s!"boolean `{b}`"
  | .unsigned n => s!"integer `{n}`"
  | .signed n => s!"integer `{n}`"
  | .float x => "floating point `" ++ w.float x ++ "`"
  | .str s => "string " ++ Text.quote s
  | .unit => w.unit
  | .seq => "sequence"
  | .map => "map"
  | .enum => "enum"
  | .other text => text

/-- What a JSON value is, as a mismatch reports it. -/
def Value.found : Value → Found
  | .null => .unit
  | .bool b => .bool b
  | .number (.natural n) => .unsigned n
  | .number (.negative n) => .signed n
  | .number (.double x) => .float x
  | .string s => .str s
  | .array _ => .seq
  | .object _ => .map

/-- Why a document does not have the expected shape. -/
inductive Mismatch where
  | invalidType (found : Found) (expected : String)
  | invalidValue (found : Found) (expected : String)
  | invalidLength (length : Nat) (expected : String)
  | missingField (field : String)
  | unknownField (field : String) (known : List String)
  | duplicateField (field : String)
  /-- A message of a check or of a reader. -/
  | custom (message : String)
deriving Inhabited

/-- Names in backticks: one, two joined by `or`, or a list after `one of`. -/
def oneOf (names : List String) : String :=
  let tick (n : String) := "`" ++ n ++ "`"
  match names with
  | [a] => tick a
  | [a, b] => tick a ++ " or " ++ tick b
  | _ => "one of " ++ ", ".intercalate (names.map tick)

/-- The text of a mismatch. -/
def Mismatch.message (w : Wording) : Mismatch → String
  | .invalidType f e => "invalid type: " ++ f.describe w ++ ", expected " ++ e
  | .invalidValue f e => "invalid value: " ++ f.describe w ++ ", expected " ++ e
  | .invalidLength n e => s!"invalid length {n}, expected " ++ e
  | .missingField f => "missing field `" ++ f ++ "`"
  | .unknownField f [] => "unknown field `" ++ f ++ "`, there are no fields"
  | .unknownField f known => "unknown field `" ++ f ++ "`, expected " ++ oneOf known
  | .duplicateField f => "duplicate field `" ++ f ++ "`"
  | .custom m => m

/-- What a record field takes when the document leaves it out. -/
inductive Absent where
  /-- Leaving it out is an error. -/
  | required
  /-- It is optional: `null` when left out of a map. -/
  | optional
  /-- It takes this value. -/
  | fallback (v : Value)
deriving Inhabited

mutual

/-- What a reader expects. -/
inductive Shape where
  /-- Any JSON value. -/
  | any
  /-- A string; `expecting` describes it in a mismatch. -/
  | text (expecting : String)
  | boolean
  /-- A double; integers are converted. -/
  | float
  /-- A natural number at most `max`; `name` describes it in a mismatch. -/
  | unsigned (name : String) (max : Nat)
  | list (item : Shape)
  /-- A map from string keys. -/
  | keyed (item : Shape)
  /-- A record with the given fields; a closed one refuses other fields. -/
  | record (name : String) (fields : List Field) (closed : Bool)
  /-- The first of the shapes that fits; none fitting is reported with the name. -/
  | firstOf (name : String) (variants : List Shape)
  /-- `null`, or the inner shape. -/
  | optional (item : Shape)
  /-- The inner shape, whose value must also pass `check`; a failed check is a custom
  mismatch with its message. -/
  | checked (item : Shape) (check : Value → Except String Value)

/-- A field of a record: its name, other names it may go by, its shape and what it takes when
absent. -/
inductive Field where
  | mk (name : String) (aliases : List String) (shape : Shape) (absent : Absent)

end

namespace Field

/-- The name of the field. -/
def name : Field → String
  | .mk n _ _ _ => n

/-- The names under which the field may appear, its name and its aliases, in text order. -/
def names : Field → List String
  | .mk n as _ _ => (n :: as).mergeSort (fun a b => decide (a ≤ b))

/-- The shape of the field's value. -/
def shape : Field → Shape
  | .mk _ _ s _ => s

/-- What the field takes when absent. -/
def absent : Field → Absent
  | .mk _ _ _ a => a

/-- A required field. -/
def req (name : String) (shape : Shape) : Field := .mk name [] shape .required

/-- A field with a default. -/
def withDefault (name : String) (shape : Shape) (v : Value) : Field := .mk name [] shape (.fallback v)

end Field

/-- The field that the key names, if any. -/
def Field.lookup (key : String) : List Field → Option Field
  | [] => none
  | f :: rest => if f.names.contains key then some f else Field.lookup key rest

/-- All names of all fields, as a mismatch lists them. -/
def Field.allNames (fields : List Field) : List String := fields.flatMap Field.names

namespace Shape

/-- A string. -/
def string : Shape := .text "a string"

/-- A 64-bit count. -/
def u64 : Shape := .unsigned "u64" (2 ^ (64 : Nat) - 1)

/-- A machine-word count. -/
def usize : Shape := .unsigned "usize" (2 ^ (64 : Nat) - 1)

/-- A 32-bit count. -/
def u32 : Shape := .unsigned "u32" (2 ^ (32 : Nat) - 1)

/-- How a mismatch describes the shape. -/
def expecting : Shape → String
  | .any => "any valid JSON value"
  | .text e => e
  | .boolean => "a boolean"
  | .float => "f64"
  | .unsigned n _ => n
  | .list _ => "a sequence"
  | .keyed _ => "a map"
  | .record n _ _ => "struct " ++ n
  | .firstOf n _ => "untagged enum " ++ n
  | .optional _ => "option"
  | .checked s _ => s.expecting

/-- The message when no variant fits. -/
def noVariant (name : String) : String :=
  "data did not match any variant of untagged enum " ++ name

/-- How a positional record describes its length. -/
def recordLength (name : String) (n : Nat) : String :=
  s!"struct {name} with {n} element" ++ (if n = 1 then "" else "s")

end Shape

end Rollout.Json
