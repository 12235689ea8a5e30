import Rollout.Poll
import Rollout.Retry.Policy
import Rollout.Threshold
import Rollout.Pattern.Compile
/-!
# Actors

An actor is one node of a built script, with everything it needs to run: its identity (label,
kind and whether the run is dry) and its settings, checked when it was built. The kinds:

* a group runs its children one after another or side by side;
* a note writes a message;
* a sleep waits a fixed time (in a dry run it only says it would have);
* a health wait polls a load balancer until enough of its instances are in service;
* a membership change registers instances with a load balancer or deregisters them, retrying
  throttled calls;
* a package pruning deletes old versions of the matching packages in a repository;
* a package wait polls a repository until a matching version appears;
* a scripted step writes to the journal, may wait, cancel or fail as its script says: the
  building block of test worlds.

* `identity_group`: a group's identity is the one it was built with.
-/

namespace Rollout

/-- How a group runs its children. -/
inductive GroupMode where
  /-- One after another, in order. -/
  | sequential
  /-- All at once, the group going on when all are done. -/
  | concurrent
deriving DecidableEq, Inhabited

namespace GroupMode

/-- The name of a mode, as logs show it. -/
def name : GroupMode → String
  | .sequential => "Sequential"
  | .concurrent => "Concurrent"

/-- The kind identifier of a group in a mode. -/
def kind : GroupMode → String
  | .sequential => "group.Sync"
  | .concurrent => "group.Async"

end GroupMode

/-- The direction of a membership change. -/
inductive Change where
  | register
  | deregister
deriving DecidableEq, Inhabited

namespace Change

/-- The kind identifier of the change. -/
def kind : Change → String
  | .register => "aws.elb.RegisterInstance"
  | .deregister => "aws.elb.DeregisterInstance"

/-- The name of the change's operation. -/
def operation : Change → String
  | .register => "register instances"
  | .deregister => "deregister instances"

end Change

/-- What a scripted step does. -/
structure StepScript where
  /-- The result when no fault is given. -/
  result : Bool := true
  /-- Milliseconds to wait after starting. -/
  delayMs : Nat := 0
  /-- Whether cancellation interrupts the wait. -/
  waitCancel : Bool := false
  /-- The fault to end with, if any. -/
  fault : Option Fault := none
  /-- Whether to cancel the run after waiting. -/
  cancel : Bool := false
deriving Inhabited

/-- A built actor. -/
inductive Actor where
  | group (identity : Identity) (mode : GroupMode) (children : List Actor)
  | note (identity : Identity) (message : String)
  /-- Sleeps a duration in nanoseconds. -/
  | sleep (identity : Identity) (nanos : Nat)
  | waitHealthy (identity : Identity) (region name : String) (count : Threshold) (poll : PollConfig)
  | membership (identity : Identity) (change : Change) (region elb : String) (ids : List String)
      (retry : RetryPolicy)
  /-- Prunes a repository; with an age limit in seconds, younger versions are kept. -/
  | prune (identity : Identity) (repo : String) (pattern : Regex) (keep : Nat) (olderThan : Option Nat)
  /-- Waits for a version; the interval of the poll is the pause between searches. -/
  | waitForPackage (identity : Identity) (repo : String) (name version : Regex) (poll : PollConfig)
  | step (identity : Identity) (script : StepScript)
deriving Inhabited

namespace Actor

/-- The identity of an actor. -/
def identity : Actor → Identity
  | .group i _ _ | .note i _ | .sleep i _ | .waitHealthy i _ _ _ _ | .membership i _ _ _ _ _
  | .prune i _ _ _ _ | .waitForPackage i _ _ _ _ | .step i _ => i

/-- The label of an actor. -/
def description (a : Actor) : String := a.identity.description

theorem identity_group (i : Identity) (mode : GroupMode) (children : List Actor) :
    (Actor.group i mode children).identity = i := rfl

/-- The same health wait with other poll timings; other actors are unchanged. -/
def withPollConfig (a : Actor) (poll : PollConfig) : Actor :=
  match a with
  | .waitHealthy i region name count _ => .waitHealthy i region name count poll
  | a => a

/-- The same membership change with another retry policy; other actors are unchanged. -/
def withRetryPolicy (a : Actor) (retry : RetryPolicy) : Actor :=
  match a with
  | .membership i change region elb ids _ => .membership i change region elb ids retry
  | a => a

end Actor

end Rollout
