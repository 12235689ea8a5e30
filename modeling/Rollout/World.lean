import Rollout.Program
import Rollout.Balancer.Service
import Rollout.Repository
import Rollout.Balancer.Region
/-!
# The world actors act on

An actor tree runs against a world: the load balancer service (none when no load balancer
backend is configured), the package repositories, the journal that scripted steps write with
the time of each line, and the calendar time, which pruning compares upload times with.

The operations here are the actors' only way to the world. Each is one atomic change of the
world, with its fault, if any, raised in the job:

* a load balancer call goes to the service (a missing service is a backend fault naming the
  region); the call is handed to a worker of the pool, so the actor gives way until it is
  answered, though the call itself takes no time and happens at once;
* a listing goes to the repositories; in memory, the listing the store numbers `cancelAt` also
  cancels the run;
* a deletion goes to the repositories.

A request to the repositories in memory is carried out at once, and the actor then waits the
store's latency for the answer: the run may be cancelled and other branches may act meanwhile,
but the request is not abandoned.

* `note_journal`: a note adds one line to the journal.
-/

namespace Rollout

/-- The world a run acts on. -/
structure World where
  balancers : Option Balancer.Service := none
  repository : Repository := .memory {}
  /-- Lines written by scripted steps, each with the time it was written. -/
  journal : Array (Nat × String) := #[]
  /-- The calendar time; a run takes no calendar time. -/
  calendar : Timestamp := ⟨0, 0⟩
  /-- The permits of the worker pool that load balancer calls are handed to. -/
  permits : Nat := 10
deriving Inhabited

namespace World

variable {β τ : Type}

/-- Raises a fault, or goes on with the value. -/
def orThrow {α : Type} : Except Fault α → Job World β τ α
  | .ok a => pure a
  | .error e => throw e

/-- Calls the load balancer service of a region, as the operation named. The worker that takes
the call logs it with the permits left; once the call succeeded, the service logs the events
`after` gives for its new state, outside every actor. -/
def callBalancers {α : Type} (region operation : String)
    (run : Balancer.Service → Balancer.Service × Except Fault α)
    (after : Balancer.Service → List Event := fun _ => []) : Job World β τ α := do
  let w ← Job.lift Exec.observe
  match w.balancers with
  | none => throw (Balancer.noBackend region)
  | some s =>
    Job.lift (Exec.debug .pool "Dispatching blocking call"
      [("operation", operation), ("available", toString (w.permits - 1))] ["operation"])
    let (s', r) := run s
    if r matches .ok _ then (after s').forM fun e => Job.lift (Exec.sayOutside e)
    Job.lift (Exec.modify fun w => { w with balancers := some s' })
    Job.lift Exec.pause
    orThrow r

/-- Lists the versions in a repository. -/
def listPackages (repo : String) : Job World β τ (List Package) := do
  let w ← Job.lift Exec.observe
  match w.repository with
  | .unreachable u => throw (u.list repo)
  | .memory store =>
    let (store', r) := store.list repo
    Job.lift (Exec.modify fun w => { w with repository := .memory store' })
    if store'.cancelAt = some store'.listings then Job.lift Exec.cancel
    Job.lift (Exec.sleepFor store.latency)
    orThrow r

/-- Deletes a version from a repository. -/
def deletePackage (repo : String) (p : Package) : Job World β τ Unit := do
  let w ← Job.lift Exec.observe
  match w.repository with
  | .unreachable u => throw (u.delete repo p)
  | .memory store =>
    let (store', r) := store.delete repo p
    Job.lift (Exec.modify fun w => { w with repository := .memory store' })
    Job.lift (Exec.sleepFor store.latency)
    orThrow r

/-- Sets the state of every instance with an id behind a load balancer, as the outside world
may; nothing changes when the load balancer or the service is missing. -/
def setInstanceState (region name id state : String) (w : World) : World :=
  match w.balancers with
  | none => w
  | some s =>
    match s.inventory.setState region name id state with
    | .ok inventory => { w with balancers := some { s with inventory } }
    | .error _ => w

/-- Adds a version to an in-memory repository, as an upload from outside would. -/
def addPackage (repo : String) (p : Package) (w : World) : World :=
  match w.repository with
  | .memory store => { w with repository := .memory (store.add repo p) }
  | .unreachable _ => w

/-- Adds a line to the journal. -/
def addLine (w : World) (time : Nat) (line : String) : World :=
  { w with journal := w.journal.push (time, line) }

theorem note_journal (w : World) (time : Nat) (line : String) :
    (w.addLine time line).journal.size = w.journal.size + 1 := by
  simp [addLine]

/-- Writes a line to the journal, with the time now. -/
def note (line : String) : Exec World β τ Unit := do
  let t ← Exec.now
  Exec.modify fun w => w.addLine t line

end World

end Rollout
