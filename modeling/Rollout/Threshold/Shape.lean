import Rollout.Threshold
import Rollout.Json.Decode
/-!
# Thresholds in documents

In a document a threshold is a 64-bit count or a text to parse. Anything else (a negative or
fractional number, a boolean, a list) fits neither and is refused as such; a text that does not
parse is refused with the parse failure's message.

* `ofValue_natural`: a count in the document is an absolute threshold.
-/

namespace Rollout.Threshold

open Rollout.Json

/-- The threshold written as a count or a text. -/
def ofValue : Value → Except String Threshold
  | .number (.natural n) => .ok (.absolute n)
  | .string s => (parse s).mapError ParseError.message
  | _ => .error (Shape.noVariant "RawThreshold")

/-- The shape of a threshold: a count or a text, the text parsed. -/
def shape : Shape :=
  .checked (.firstOf "RawThreshold" [Shape.u64, Shape.string])
    (fun v => (ofValue v).map fun _ => v)

/-- Decodes a threshold from a value, with the message of the first problem. -/
def decode (v : Value) : Except String Threshold :=
  match shape.decode v with
  | .ok raw => ofValue raw
  | .error m => .error (m.message Wording.json)

theorem ofValue_natural (n : Nat) : ofValue (.number (.natural n)) = .ok (.absolute n) := rfl

end Rollout.Threshold
