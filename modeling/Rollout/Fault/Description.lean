import Rollout.Fault
import Rollout.Json.Value
/-!
# Faults described in documents

Test worlds describe a fault as an object: `variant` names the cause and the other fields
carry its texts, a missing text counting as empty. A child wrapper carries a `position`
(zero when missing), a `description` and the `source` it wraps, described the same way.

A description without a variant, with an unknown one, a wrapper without a source or a text
field that is not a string is refused, with a message saying which.

* `ofDescription_cancelled`: `{"variant": "Cancelled"}` describes cancellation.
-/

namespace Rollout.Fault

open Rollout.Json

/-- A text field of a description: missing or `null` is empty. -/
def textField (v : Value) (k : String) : Except String String :=
  match v.get? k with
  | none | some .null => .ok ""
  | some (.string s) => .ok s
  | some _ => .error (k ++ " must be a string")

/-- The fault that a description describes. -/
def ofDescription : Value → Except String Fault
  | v@(.object fields) => do
    let t := textField v
    match Keyed.get? "variant" fields with
    | some (.string name) =>
      match name with
      | "InvalidOptions" => return .invalidOptions (← t "actor") (← t "reason")
      | "UnknownActor" => return .unknownActor (← t "name")
      | "MissingCredentials" => return .missingCredentials (← t "service") (← t "variable")
      | "ScriptLoad" => return .scriptLoad (← t "path") (← t "reason")
      | "BackendUnavailable" => return .backendUnavailable (← t "service") (← t "reason")
      | "Operational" => return .operational (← t "operation") (← t "reason")
      | "Unrecoverable" => return .unrecoverable (← t "reason")
      | "Cancelled" => return .cancelled
      | "Child" =>
        let position ← match Keyed.get? "position" fields with
          | none | some .null => pure 0
          | some (.number (.natural n)) => pure n
          | some _ => throw "position must be a non-negative integer"
        let description ← t "description"
        match h : Keyed.get? "source" fields with
        | none | some .null => throw "Child needs a source"
        | some src =>
          have : sizeOf src < sizeOf fields := Keyed.sizeOf_get?_lt h
          return .child position description (← ofDescription src)
      | other => throw ("unknown error variant " ++ other)
    | _ => throw "error spec needs a variant"
  | _ => .error "error spec needs a variant"
termination_by v => sizeOf v

theorem ofDescription_cancelled :
    ofDescription (.object [("variant", .string "Cancelled")]) = .ok .cancelled := by
  simp [ofDescription, Keyed.get?]; rfl

end Rollout.Fault
