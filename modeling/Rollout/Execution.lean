import Rollout.Actor
import Rollout.World
import Rollout.Retry.Idempotent
import Rollout.Duration
import Rollout.Number.Render
/-!
# Running actors

Executing an actor files its log under its label and wraps its work:

* a cancelled run stops it before it begins, with the cancellation fault and nothing logged;
* otherwise it logs `Beginning`, does its work, and logs how it ended: `Finished successfully`,
  `Finished with failure`, `Cancelled before completion` (a cancellation fault), or `Failed`
  with the kind and text of any other fault.

A group logs `Running acts` with the number of children and the mode, then runs them. One
after another, a child is not started once the run is cancelled; side by side, all start
together. A child's fault makes it failed and goes no further. The group logs `Some acts
failed`, listing the failed and the succeeded children (cancelled or unstarted ones in
neither), when some failed; it ends with the cancellation fault when a child was cancelled or
not started, and otherwise succeeds when every child did.

A run of a tree logs `Starting run`, executes the root, and classifies the result: success,
failure (a false result or a fault), or cancellation (a fault of kind cancelled, wrapped or
not), with exit codes 0, 1 and 130; it logs how it ended with the milliseconds it took.

* `ChildOutcome.ofResult_ok`: a child that returned true succeeded.
-/

namespace Rollout

/-- What executing an actor gives: its result or its fault. -/
abbrev Outcome := Except Fault Bool

/-- How a child of a group ended. -/
inductive ChildOutcome where
  | succeeded
  | failed
  | errored (kind : Fault.Kind)
  | notStarted
deriving DecidableEq, Inhabited

namespace ChildOutcome

/-- The outcome of a child that ran. -/
def ofResult : Outcome → ChildOutcome
  | .ok true => .succeeded
  | .ok false => .failed
  | .error e => .errored e.kind

theorem ofResult_ok : ofResult (.ok true) = .succeeded := rfl

/-- Whether the child succeeded. -/
def isSuccess (o : ChildOutcome) : Bool := o == .succeeded

/-- Whether the child was cancelled or never started. -/
def isCancelled : ChildOutcome → Bool
  | .errored .cancelled | .notStarted => true
  | _ => false

/-- The outcome as reports name it. -/
def name : ChildOutcome → String
  | .succeeded => "Succeeded"
  | .failed => "Failed"
  | .errored k => "Errored(" ++ k.title ++ ")"
  | .notStarted => "NotStarted"

end ChildOutcome

/-- The outcome of each child of a group, with its label, in the order of the children. -/
structure GroupReport where
  outcomes : List (String × ChildOutcome) := []
deriving Inhabited

namespace GroupReport

/-- Whether every child succeeded. -/
def success (r : GroupReport) : Bool := r.outcomes.all fun (_, o) => o.isSuccess

/-- Whether a child was cancelled or never started. -/
def cancelled (r : GroupReport) : Bool := r.outcomes.any fun (_, o) => o.isCancelled

/-- The labels of the children that succeeded. -/
def succeeded (r : GroupReport) : List String :=
  (r.outcomes.filter fun (_, o) => o.isSuccess).map (·.1)

/-- The labels of the children that failed or had a fault other than cancellation. -/
def failed (r : GroupReport) : List String :=
  (r.outcomes.filter fun (_, o) => !o.isSuccess && !o.isCancelled).map (·.1)

end GroupReport

/-- A list of texts as debugging output writes it: quoted, in brackets. -/
def debugList (xs : List String) : String :=
  "[" ++ ", ".intercalate (xs.map Text.quote) ++ "]"

/-- How a run ended. -/
inductive RunStatus where
  | succeeded
  | failed
  | cancelled
deriving DecidableEq, Inhabited

namespace RunStatus

/-- The exit code of a run that ended so. -/
def exitCode : RunStatus → Nat
  | .succeeded => 0
  | .failed => 1
  | .cancelled => 130

/-- The name of the status. -/
def name : RunStatus → String
  | .succeeded => "Succeeded"
  | .failed => "Failed"
  | .cancelled => "Cancelled"

/-- The status of a run whose root ended so, with the fault that ended it. -/
def classify : Outcome → RunStatus × Option Fault
  | .ok true => (.succeeded, none)
  | .ok false => (.failed, none)
  | .error e => if e.kind = .cancelled then (.cancelled, some e) else (.failed, some e)

end RunStatus

/-- The summary of a run. -/
structure RunReport where
  status : RunStatus
  fault : Option Fault
  /-- Milliseconds the run took. -/
  elapsed : Nat
deriving Inhabited

namespace Execution

variable {τ : Type}

/-- The computations of a run: on the world, settling branches with outcomes. -/
abbrev Run (τ α : Type) := Exec World Outcome τ α

/-- The jobs of a run. -/
abbrev Work (τ α : Type) := Job World Outcome τ α

/-- Logs at level debug. -/
def debug (origin : Origin) (message : String) (fields : List (String × String) := [])
    (quoted : List String := []) : Work τ Unit :=
  Job.lift (Exec.debug origin message fields quoted)

/-- Logs at level info. -/
def info (origin : Origin) (message : String) (fields : List (String × String) := [])
    (quoted : List String := []) : Work τ Unit :=
  Job.lift (Exec.info origin message fields quoted)

/-- Logs at level warn. -/
def warn (origin : Origin) (message : String) (fields : List (String × String) := [])
    (quoted : List String := []) : Work τ Unit :=
  Job.lift (Exec.warn origin message fields quoted)

/-- Milliseconds of a duration in nanoseconds, rounded up: timers count whole milliseconds. -/
def timerMillis (nanos : Nat) : Nat := (nanos + Duration.nanosPerMilli - 1) / Duration.nanosPerMilli

/-- A duration in nanoseconds as seconds, the way debugging output writes a double. -/
def secondsText (nanos : Nat) : String :=
  (Duration.toSecondsDouble nanos).render Rollout.Number.Style.debug

/-- Sleeps, or in a dry run only says it would have. -/
def sleep (dryRun : Bool) (nanos : Nat) : Work τ Bool := do
  if dryRun then
    info .note "Would have slept" [("secs", secondsText nanos)]
    return true
  info .note "Sleeping" [("secs", secondsText nanos)]
  Job.sleepFor (timerMillis nanos)
  return true

/-- Waits until enough instances behind a load balancer are in service. -/
def waitHealthy (dryRun : Bool) (region name : String) (count : Threshold) (poll : PollConfig) :
    Work τ Bool := do
  World.callBalancers region "find load balancer" (·.find region name)
  let check : Work τ Bool := do
    let instances ← World.callBalancers region "describe instance health" (·.health region name)
    let inService := (instances.filter (·.isInService)).length
    let expected := count.required instances.length
    let healthy := decide (expected ≤ inService)
    debug .balancer "Counted InService instances" [("elb", name), ("in_service", toString inService),
      ("total", toString instances.length), ("expected", toString expected),
      ("healthy", toString healthy)]
    return healthy
  let result ← pollUntil check poll dryRun
  let result ← World.orThrow result.intoResult
  if !result.simulated then
    info .balancer "ELB is healthy" [("elb", name), ("count", count.display)]
  return result.satisfied

/-- Applies a membership change at the service. -/
def Change.apply (change : Change) (s : Balancer.Service) (region elb : String) (ids : List String) :
    Balancer.Service × Except Fault Unit :=
  match change with
  | .register => s.register region elb ids
  | .deregister => s.deregister region elb ids

/-- What the service logs after a membership change: the instances behind the load balancer. -/
def Change.logged (change : Change) (s : Balancer.Service) (region elb : String) : List Event :=
  let count := ((s.inventory.instances? region elb).map List.length).getD 0
  let message := match change with
    | .register => "Registered instances"
    | .deregister => "Deregistered instances"
  [{ level := .debug, origin := .balancerInventory, message,
     fields := [("elb", elb), ("count", toString count)], quoted := ["elb"] }]

/-- Registers or deregisters instances. -/
def membership (dryRun : Bool) (change : Change) (region elb : String) (ids : List String)
    (retry : RetryPolicy) : Work τ Bool := do
  World.callBalancers region "find load balancer" (·.find region elb)
  let listed := ", ".intercalate ids
  match change with
  | .register => info .balancer ("Adding the following instances to elb: " ++ listed) [("elb", elb)]
  | .deregister => info .balancer ("Removing the following instances from elb: " ++ listed) [("elb", elb)]
  if dryRun then
    info .balancer "Dry run, leaving the load balancer unchanged" [("operation", change.operation)]
      ["operation"]
    return true
  retryIdempotent retry change.operation
    (World.callBalancers region change.operation (fun s => Change.apply change s region elb ids)
      fun s => Change.logged change s region elb)
  info .balancer "Done"
  return true

/-- Deletes the planned versions in order, stopping at a cancellation. -/
def deleteAll (dryRun : Bool) (repo : String) : List Package → Work τ Unit
  | [] => pure ()
  | p :: rest => do
    Job.checkCancelled
    let target := p.target repo
    if dryRun then info .packages ("Would have deleted " ++ target)
    else
      info .packages ("Deleting " ++ target)
      World.deletePackage repo p
    deleteAll dryRun repo rest

/-- Deletes old versions of the matching packages. -/
def prune (dryRun : Bool) (repo : String) (pattern : Regex) (keep : Nat) (olderThan : Option Nat) :
    Work τ Bool := do
  let packages ← World.listPackages repo
  let w ← Job.lift Exec.observe
  let plan := planDeletions packages pattern.isMatch keep (olderThan.map Int.ofNat) w.calendar
  debug .packages "Planned deletions" [("listed", toString packages.length),
    ("planned", toString plan.length)]
  deleteAll dryRun repo plan
  info .packages "Finished deleting packages" [("repo", repo), ("count", toString plan.length)]
  return true

/-- Waits until a matching version appears in a repository. -/
def waitForPackage (dryRun : Bool) (repo : String) (name version : Regex) (poll : PollConfig) :
    Work τ Bool := do
  let search : Work τ Bool := do
    info .packages "Searching for package" [("name", name.source), ("version", version.source)]
    let packages ← World.listPackages repo
    let found := packages.any fun p => name.isMatch p.name && version.isMatch p.version
    if found then info .packages "Found it"
    return found
  let result ← pollUntil search poll dryRun
  let result ← World.orThrow result.intoResult
  return result.satisfied

/-- Runs a scripted step. -/
def step (identity : Identity) (script : StepScript) : Work τ Bool := do
  let desc := identity.description
  Job.lift (World.note ((if identity.dryRun then "start(dry) " else "start ") ++ desc))
  if 0 < script.delayMs then
    if script.waitCancel then
      let t ← Job.lift Exec.now
      if ← Job.lift (Exec.waitUntil (t + script.delayMs)) then
        Job.lift (World.note ("interrupted " ++ desc))
        throw .cancelled
    else Job.lift (Exec.sleepFor script.delayMs)
  if script.cancel then Job.lift Exec.cancel
  Job.lift (World.note ("end " ++ desc))
  match script.fault with
  | some f => throw f
  | none => return script.result

/-- Logs the failed children of a group, if any. -/
def logReport (r : GroupReport) : Work τ Unit := do
  if r.failed.isEmpty then debug .group "All acts succeeded" [("succeeded", debugList r.succeeded)]
  else
    warn .group "Some acts failed" [("failed", debugList r.failed), ("succeeded", debugList r.succeeded)]

/-- The group's result from its report: cancelled when a child was, else whether all succeeded. -/
def conclude (r : GroupReport) : Work τ Bool := do
  logReport r
  if r.cancelled then throw .cancelled
  return r.success

/-- How executing ends, logged: the outcome of the work. -/
def finish (result : Outcome) : Run τ Outcome := do
  match result with
  | .ok true => Exec.info .actor "Finished successfully"
  | .ok false => Exec.warn .actor "Finished with failure"
  | .error .cancelled => Exec.warn .actor "Cancelled before completion"
  | .error e => Exec.error .actor "Failed" [("kind", e.kind.name), ("error", e.message)]
  return result

/-- Pairs children with the outcomes of their executions. -/
def zipOutcomes (children : List Actor) (results : List Outcome) : List (String × ChildOutcome) :=
  (children.zip results).map fun (a, r) => (a.description, ChildOutcome.ofResult r)

mutual

/-- The work of an actor. -/
def act : Actor → Work τ Bool
  | .group _ mode children => do
    info .group "Running acts" [("acts", toString children.length), ("mode", mode.name)]
    match mode with
    | .sequential =>
      let outcomes ← Job.lift (runInOrder children)
      conclude ⟨outcomes⟩
    | .concurrent =>
      let results ← Job.lift (Exec.forkAll (executeEach children))
      conclude ⟨zipOutcomes children results⟩
  | .note _ message => do
    info .note message
    return true
  | .sleep i nanos => sleep i.dryRun nanos
  | .waitHealthy i region name count poll => waitHealthy i.dryRun region name count poll
  | .membership i change region elb ids retry => membership i.dryRun change region elb ids retry
  | .prune i repo pattern keep olderThan => prune i.dryRun repo pattern keep olderThan
  | .waitForPackage i repo name version poll => waitForPackage i.dryRun repo name version poll
  | .step i script => step i script

/-- Executes an actor: its work, logged under its label, unless the run was cancelled. -/
def execute (a : Actor) : Run τ Outcome :=
  Exec.within a.identity do
    if ← Exec.isCancelled then return .error .cancelled
    Exec.info .actor "Beginning"
    let result ← (act a).attempt
    finish result

/-- Executes children one after another; once the run is cancelled the rest do not start. -/
def runInOrder : List Actor → Run τ (List (String × ChildOutcome))
  | [] => pure []
  | a :: rest => do
    let outcome ← if ← Exec.isCancelled then pure ChildOutcome.notStarted
      else do
        Exec.debug .group "Beginning act" [("act", a.description)]
        let outcome := ChildOutcome.ofResult (← execute a)
        Exec.debug .group "Finished act" [("act", a.description), ("outcome", outcome.name)]
        pure outcome
    let more ← runInOrder rest
    return (a.description, outcome) :: more

/-- The executions of children, to run side by side. -/
def executeEach : List Actor → List (Run τ Outcome)
  | [] => []
  | a :: rest => execute a :: executeEach rest

end

/-- Runs the children of a group in a mode and reports how each ended. -/
def runGroup (mode : GroupMode) (children : List Actor) : Run τ GroupReport := do
  match mode with
  | .sequential => return ⟨← runInOrder children⟩
  | .concurrent => return ⟨zipOutcomes children (← Exec.forkAll (executeEach children))⟩

/-- Logs how a run ended. -/
def logEnd (status : RunStatus) (fault : Option Fault) (elapsed : Nat) : Run τ Unit :=
  let ms := ("elapsed_ms", toString elapsed)
  match status, fault with
  | .succeeded, _ => Exec.info .runner "Run succeeded" [ms]
  | .cancelled, _ => Exec.warn .runner "Run cancelled" [ms]
  | .failed, some e => Exec.error .runner "Run failed" [ms, ("kind", e.kind.name), ("error", e.message)]
  | .failed, none => Exec.warn .runner "Run failed" [ms]

end Execution

open Execution in
/-- Runs a tree from its root and reports how it ended. -/
def runTree {τ : Type} (root : Actor) : Run τ RunReport := do
  let started ← Exec.now
  let i := root.identity
  Exec.info .runner "Starting run" [("desc", i.description), ("dry_run", toString i.dryRun)]
  let result ← execute root
  let elapsed := (← Exec.now) - started
  let (status, fault) := RunStatus.classify result
  logEnd status fault elapsed
  return ⟨status, fault, elapsed⟩

end Rollout
