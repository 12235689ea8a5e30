import Rollout.Text.Quote

/-!
# Faults

Everything that can stop an actor is a `Fault`. Five causes belong to assembling a script
(bad options, an unknown actor type, missing credentials, an unreadable script, no backend),
two to running it (a failed external call that may be retried, and one that may not), one is
cancellation, and one wraps the fault of a group's child with the child's position and label.
A wrapped fault keeps the kind of what it wraps.

* `kind_child`: wrapping keeps the kind.
* `message_child`: a wrapper's message prefixes `act #p 'd': ` to its source's.
* `exactly_one_class`: a fault is exactly one of retryable, fatal and cancelled.
-/

namespace Rollout

/-- The broad class of a fault. -/
inductive Fault.Kind
  | configuration
  | operational
  | unrecoverable
  | cancelled
deriving DecidableEq, Repr, Inhabited

/-- Why an actor stopped. -/
inductive Fault where
  | invalidOptions (actor reason : String)
  | unknownActor (name : String)
  | missingCredentials (service envVar : String)
  | scriptLoad (path reason : String)
  | backendUnavailable (service reason : String)
  | operational (operation reason : String)
  | unrecoverable (reason : String)
  | cancelled
  | child (position : Nat) (description : String) (source : Fault)
deriving DecidableEq, Inhabited

namespace Fault.Kind

/-- The lower-case name of a kind, as messages show it. -/
def name : Fault.Kind → String
  | .configuration => "configuration"
  | .operational => "operational"
  | .unrecoverable => "unrecoverable"
  | .cancelled => "cancelled"

/-- The capitalised name of a kind, as reports show it. -/
def title : Fault.Kind → String
  | .configuration => "Configuration"
  | .operational => "Operational"
  | .unrecoverable => "Unrecoverable"
  | .cancelled => "Cancelled"

end Fault.Kind

namespace Fault

/-- The class of a fault; a wrapper has the class of what it wraps. -/
def kind : Fault → Kind
  | .invalidOptions .. | .unknownActor .. | .missingCredentials .. | .scriptLoad ..
  | .backendUnavailable .. => .configuration
  | .operational .. => .operational
  | .unrecoverable .. => .unrecoverable
  | .cancelled => .cancelled
  | .child _ _ source => source.kind

/-- Only failed external calls may be retried. -/
def isRetryable (f : Fault) : Bool := f.kind == .operational

/-- Configuration and unrecoverable faults end execution outright. -/
def isFatal (f : Fault) : Bool := f.kind == .configuration || f.kind == .unrecoverable

/-- Whether the fault is a cancellation, possibly wrapped. -/
def isCancelled (f : Fault) : Bool := f.kind == .cancelled

/-- The one-line description of a fault. -/
def message : Fault → String
  | .invalidOptions actor reason => s!"invalid options for '{actor}': {reason}"
  | .unknownActor name => s!"unknown actor type '{name}'"
  | .missingCredentials service envVar =>
    s!"missing credentials for {service}: the {envVar} environment variable is not set"
  | .scriptLoad path reason => s!"failed to load script '{path}': {reason}"
  | .backendUnavailable service reason => s!"no {service} backend configured: {reason}"
  | .operational operation reason => s!"{operation} failed: {reason}"
  | .unrecoverable reason => s!"unrecoverable failure: {reason}"
  | .cancelled => "execution cancelled"
  | .child position description source => s!"act #{position} '{description}': {source.message}"

/-- The name of the cause. -/
def causeName : Fault → String
  | .invalidOptions .. => "InvalidOptions"
  | .unknownActor .. => "UnknownActor"
  | .missingCredentials .. => "MissingCredentials"
  | .scriptLoad .. => "ScriptLoad"
  | .backendUnavailable .. => "BackendUnavailable"
  | .operational .. => "Operational"
  | .unrecoverable .. => "Unrecoverable"
  | .cancelled => "Cancelled"
  | .child .. => "Child"

/-- The fault under all child wrappers. -/
def root : Fault → Fault
  | .child _ _ source => source.root
  | f => f

/-- The positions of the child wrappers, outermost first. -/
def path : Fault → List Nat
  | .child position _ source => position :: source.path
  | _ => []

/-- The faults directly under each wrapper, outermost first: the chain of causes. -/
def sources : Fault → List Fault
  | .child _ _ source => source :: source.sources
  | _ => []

/-- The fault directly under a child wrapper, which the wrapper names as its source; no other
fault has a source. -/
def source? : Fault → Option Fault
  | .child _ _ source => some source
  | _ => none

/-- The position and label of each child wrapper, outermost first. -/
def wrappers : Fault → List (Nat × String)
  | .child position description source => (position, description) :: source.wrappers
  | _ => []

/-- A field of the structured debugging form. -/
def field (name value : String) : String := name ++ ": " ++ value

/-- A record in the structured debugging form: its name and its fields. -/
def record (name : String) (fields : List (String × String)) : String :=
  name ++ " \x7b " ++ ", ".intercalate (fields.map fun (k, v) => field k v) ++ " \x7d"

/-- The structured debugging form, with texts quoted. -/
def debugText : Fault → String
  | .invalidOptions actor reason =>
    record "InvalidOptions" [("actor", Text.quote actor), ("reason", Text.quote reason)]
  | .unknownActor name => record "UnknownActor" [("name", Text.quote name)]
  | .missingCredentials service envVar =>
    record "MissingCredentials" [("service", Text.quote service), ("variable", Text.quote envVar)]
  | .scriptLoad path reason =>
    record "ScriptLoad" [("path", Text.quote path), ("reason", Text.quote reason)]
  | .backendUnavailable service reason =>
    record "BackendUnavailable" [("service", Text.quote service), ("reason", Text.quote reason)]
  | .operational operation reason =>
    record "Operational" [("operation", Text.quote operation), ("reason", Text.quote reason)]
  | .unrecoverable reason => record "Unrecoverable" [("reason", Text.quote reason)]
  | .cancelled => "Cancelled"
  | .child position description source =>
    record "Child" [("position", toString position), ("description", Text.quote description),
      ("source", source.debugText)]

/-- A failure of an external call, named by the operation that failed. -/
def ofOperation (operation : String) (reason : String) : Fault := .operational operation reason

/-- A failure that retrying cannot fix, described as `what: reason`. -/
def ofUnrecoverable (what : String) (reason : String) : Fault := .unrecoverable s!"{what}: {reason}"

theorem kind_child (p : Nat) (d : String) (f : Fault) : (child p d f).kind = f.kind := rfl

theorem message_child (p : Nat) (d : String) (f : Fault) :
    (child p d f).message = s!"act #{p} '{d}': {f.message}" := rfl

theorem kind_root (f : Fault) : f.root.kind = f.kind := by
  induction f with
  | child _ _ source ih => simpa [root, kind] using ih
  | _ => rfl

/-- **A fault is exactly one of retryable, fatal and cancelled.** -/
theorem exactly_one_class (f : Fault) :
    (f.isRetryable && !f.isFatal && !f.isCancelled) ||
    (!f.isRetryable && f.isFatal && !f.isCancelled) ||
    (!f.isRetryable && !f.isFatal && f.isCancelled) := by
  unfold isRetryable isFatal isCancelled
  cases f.kind <;> decide

end Fault

end Rollout
