import Rollout.Json.Shape
/-!
# Decoding a value against a shape

`Shape.decode` checks a JSON value against a shape and returns the value in the shape's terms:
a double where a double is expected, a record as an object of its fields in their declared
order with absent fields filled in.

A record is read from an object field by field in key order, or from an array position by
position. The first mismatch met in that order is the answer; after the last field, the first
absent required field (in declared order) is. A repeated field can arise only through an alias,
since an object has each key once.

* `decode_any`: every value fits `Shape.any` and is returned unchanged.
-/

namespace Rollout.Json

namespace Shape

/-- The value that a record takes for a field left out of an object. -/
def absentValue (f : Field) : Except Mismatch Value :=
  match f.absent with
  | .required => .error (.missingField f.name)
  | .optional => .ok .null
  | .fallback v => .ok v

/-- Fills the fields in declared order from the decoded ones. -/
def completeRecord (seen : List (String × Value)) : List Field → Except Mismatch (List (String × Value))
  | [] => .ok []
  | f :: rest => do
    let v ← match Keyed.get? f.name seen with
      | some v => pure v
      | none => absentValue f
    let vs ← completeRecord seen rest
    pure ((f.name, v) :: vs)

mutual

/-- Decodes a value against a shape. -/
def decode (s : Shape) (v : Value) : Except Mismatch Value :=
  match s, v with
  | .any, v => .ok v
  | .text _, .string t => .ok (.string t)
  | .boolean, .bool b => .ok (.bool b)
  | .float, .number n => .ok (.number (.double n.toDouble))
  | .unsigned name max, .number (.natural n) =>
    if n ≤ max then .ok (.nat n) else .error (.invalidValue (.unsigned n) name)
  | .unsigned name _, .number (.negative n) => .error (.invalidValue (.signed n) name)
  | .list item, .array xs => (decodeItems item xs).map .array
  | .keyed item, .object fs => (decodeEntries item fs).map .object
  | .record _ fields closed, .object fs => do
    let seen ← decodeFields fields closed [] fs
    let all ← completeRecord seen fields
    pure (.object all)
  | .record name fields _, .array xs => do
    let all ← decodePositional name fields.length 0 fields xs
    pure (.object all)
  | .firstOf name variants, v =>
    match decodeFirst variants v with
    | some r => .ok r
    | none => .error (.custom (noVariant name))
  | .optional _, .null => .ok .null
  | .optional item, v => decode item v
  | .checked item check, v => do
    let r ← decode item v
    match check r with
    | .ok r => pure r
    | .error m => .error (.custom m)
  | s, v => .error (.invalidType v.found s.expecting)
termination_by (sizeOf v, sizeOf s)

/-- Decodes every item against one shape. -/
def decodeItems (s : Shape) (xs : List Value) : Except Mismatch (List Value) :=
  match xs with
  | [] => .ok []
  | x :: rest => do
    let y ← decode s x
    let ys ← decodeItems s rest
    pure (y :: ys)
termination_by (sizeOf xs, sizeOf s)

/-- Decodes the value of every entry against one shape. -/
def decodeEntries (s : Shape) (fs : List (String × Value)) :
    Except Mismatch (List (String × Value)) :=
  match fs with
  | [] => .ok []
  | (k, x) :: rest => do
    let y ← decode s x
    let ys ← decodeEntries s rest
    pure ((k, y) :: ys)
termination_by (sizeOf fs, sizeOf s)

/-- The first variant that the value fits, decoded. -/
def decodeFirst (variants : List Shape) (v : Value) : Option Value :=
  match variants with
  | [] => none
  | s :: rest =>
    match decode s v with
    | .ok r => some r
    | .error _ => decodeFirst rest v
termination_by (sizeOf v, sizeOf variants)

/-- Reads the entries of an object as the fields of a record, in key order. -/
def decodeFields (fields : List Field) (closed : Bool) (seen : List (String × Value))
    (fs : List (String × Value)) : Except Mismatch (List (String × Value)) :=
  match fs with
  | [] => .ok seen
  | (k, x) :: rest =>
    match Field.lookup k fields with
    | none =>
      if closed then .error (.unknownField k (Field.allNames fields))
      else decodeFields fields closed seen rest
    | some f =>
      if Keyed.contains f.name seen then .error (.duplicateField f.name)
      else do
        let y ← decode f.shape x
        decodeFields fields closed (Keyed.insert f.name y seen) rest
termination_by (sizeOf fs, 0)

/-- Reads the items of an array as the fields of a record, in declared order. -/
def decodePositional (name : String) (count index : Nat) (fields : List Field) (xs : List Value) :
    Except Mismatch (List (String × Value)) :=
  match fields, xs with
  | [], [] => .ok []
  | [], _ :: _ => .error (.invalidLength (index + xs.length) "fewer elements in array")
  | f :: rest, [] =>
    match f.absent with
    | .fallback v => do
      let vs ← decodePositional name count (index + 1) rest []
      pure ((f.name, v) :: vs)
    | _ => .error (.invalidLength index (recordLength name count))
  | f :: rest, x :: more => do
    let y ← decode f.shape x
    let vs ← decodePositional name count (index + 1) rest more
    pure ((f.name, y) :: vs)
termination_by (sizeOf xs, sizeOf fields)

end

theorem decode_any (v : Value) : decode .any v = .ok v := by
  simp [decode]

end Shape

end Rollout.Json
