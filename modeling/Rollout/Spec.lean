import Rollout.Json.Decode
import Rollout.Fault
/-!
# Actor specifications

A script is a tree of specifications. Each names a label (`desc`, which may also be written
`description`, but not both), the kind of actor (`actor`), and the actor's options: a map from
option names to JSON values, empty when left out. A specification with any other field is
refused.

Options are checked only when the actor is built: `Spec.parseOptions` decodes them against the
actor's own shape, and a mismatch becomes an invalid-options fault labelled with the spec's
label. Options are read in key order.

* `parseOptions_error`: a failure to parse options is an invalid-options fault for the label.
-/

namespace Rollout

open Rollout.Json

/-- One node of a script: label, actor kind and options. -/
structure Spec where
  desc : String
  actor : String
  options : List (String × Value) := []
deriving Inhabited

namespace Spec

/-- The shape of a specification in a document. -/
def shape : Shape :=
  .record "ActorSpec"
    [.mk "desc" ["description"] Shape.string .required,
     .mk "actor" [] Shape.string .required,
     .mk "options" [] (.keyed .any) (.fallback (.object []))]
    true

/-- The specification of a decoded record. -/
def ofRecord (v : Value) : Spec :=
  { desc := ((v.get? "desc").bind Value.str?).getD ""
    actor := ((v.get? "actor").bind Value.str?).getD ""
    options := ((v.get? "options").bind Value.fields?).getD [] }

/-- Decodes a specification from a value, with the message of the first mismatch. -/
def ofValue (v : Value) : Except String Spec :=
  match shape.decode v with
  | .ok r => .ok (ofRecord r)
  | .error m => .error (m.message Wording.json)

/-- The specification as a document. -/
def toValue (s : Spec) : Value :=
  .object [("actor", .string s.actor), ("desc", .string s.desc), ("options", .object s.options)]

/-- A specification without options. -/
def new (desc actor : String) : Spec := { desc, actor }

/-- Sets an option, replacing an earlier value of the same name. -/
def withOption (s : Spec) (key : String) (v : Value) : Spec :=
  { s with options := Keyed.insert key v s.options }

/-- Decodes the options against a shape; a mismatch is an invalid-options fault. -/
def parseOptions (s : Spec) (optionShape : Shape) : Except Fault Value :=
  match optionShape.decode (.object s.options) with
  | .ok v => .ok v
  | .error m => .error (.invalidOptions s.desc (m.message Wording.json))

theorem parseOptions_error (s : Spec) (sh : Shape) (m : Mismatch)
    (h : sh.decode (.object s.options) = .error m) :
    s.parseOptions sh = .error (.invalidOptions s.desc (m.message Wording.json)) := by
  simp [parseOptions, h]

end Spec

end Rollout
