import Rollout.Actor
import Rollout.Spec
import Rollout.Registry
import Rollout.Settings
import Rollout.Duration
import Rollout.Threshold.Shape
import Rollout.Balancer.Region
import Rollout.Pattern.Option
import Rollout.Fault.Description
import Rollout.Number.Render
/-!
# Assembling a script

Assembly turns a specification into an actor, building and so checking every actor of the tree
before anything runs. An unregistered kind is refused first. Each kind then checks, in order:

* **groups**: the options `{acts}`, then each child in order; the first child that fails
  stops the group, its fault wrapped with the child's position (from one) and label;
* **sleep**: the options `{sleep}`, then that the seconds make a duration (finite, not
  negative, below `2 ^ 64` seconds);
* **health wait**: the options `{name, count, region}`, then the region, the AWS credentials,
  and that a load balancer backend is configured;
* **membership change**: the options `{elb, region, instance_id}`, with one id or a list, then
  that some id is given and none is blank, then region, credentials and backend;
* **pruning**: the options `{packages_to_delete, repo, number_to_keep = 0}`, by date also
  `older_than` (seconds, at most `i64::MAX / 1000`), then the pattern, then the repository
  credentials;
* **package wait**: the options `{name, version = ".*", repo, sleep = 10}`, then the name
  pattern, the version pattern, and the credentials;
* **scripted step**: the options `{result = true, delay_ms = 0, wait_cancel = false, error,
  cancel = false}`.

Options are refused when a field is missing, of the wrong type, or unknown.

* `build_unknown`: a kind that is not registered is refused by name.
-/

namespace Rollout

open Rollout.Json

/-- What assembly needs besides the script. -/
structure Backends where
  settings : Settings := {}
  /-- Whether a load balancer backend is configured. -/
  balancers : Bool := false
  /-- The kinds that may be built. -/
  registry : Registry := Registry.builtin
deriving Inhabited

namespace Assembly

/-- The options of a note. -/
def noteShape : Shape := .record "NoteOptions" [Field.req "message" Shape.string] true

/-- The options of a sleep. -/
def sleepShape : Shape := .record "SleepOptions" [Field.req "sleep" .float] true

/-- The options of a health wait. -/
def healthShape : Shape :=
  .record "HealthyOptions"
    [Field.req "name" Shape.string, Field.req "count" Threshold.shape,
     Field.req "region" Shape.string] true

/-- One instance id or a list of them. -/
def idsShape : Shape := .firstOf "InstanceIds" [Shape.string, .list Shape.string]

/-- The options of a membership change. -/
def membershipShape : Shape :=
  .record "MembershipOptions"
    [Field.req "elb" Shape.string, Field.req "region" Shape.string,
     Field.req "instance_id" idsShape] true

/-- The options shared by both kinds of pruning. -/
def pruneFields : List Field :=
  [Field.req "packages_to_delete" Shape.string, Field.req "repo" Shape.string,
   Field.withDefault "number_to_keep" Shape.usize (.nat 0)]

/-- The options of a pruning. -/
def pruneShape : Shape := .record "DeleteOptions" pruneFields true

/-- The options of a pruning by date. -/
def pruneByDateShape : Shape :=
  .record "DeleteByDateOptions" (pruneFields ++ [Field.req "older_than" Shape.u64]) true

/-- The options of a package wait. -/
def waitShape : Shape :=
  .record "WaitOptions"
    [Field.req "name" Shape.string, Field.withDefault "version" Shape.string (.string ".*"),
     Field.req "repo" Shape.string, Field.withDefault "sleep" Shape.u64 (.nat 10)] true

/-- The options of a scripted step. -/
def stepShape : Shape :=
  .record "StepOptions"
    [Field.withDefault "result" .boolean (.bool true), Field.withDefault "delay_ms" Shape.u64 (.nat 0),
     Field.withDefault "wait_cancel" .boolean (.bool false), .mk "error" [] (.optional .any) .optional,
     Field.withDefault "cancel" .boolean (.bool false)] true

/-- The options of a group. -/
def groupShape : Shape := .record "GroupOptions" [Field.req "acts" (.list Spec.shape)] true

/-- A text option of decoded options. -/
def text (v : Value) (k : String) : String := ((v.get? k).bind Value.str?).getD ""

/-- A count option of decoded options. -/
def count (v : Value) (k : String) : Nat := ((v.get? k).bind Value.nat?).getD 0

/-- A flag option of decoded options. -/
def flag (v : Value) (k : String) : Bool := ((v.get? k).bind Value.bool?).getD false

/-- The identity of the actor a specification describes. -/
def identity (spec : Spec) (dryRun : Bool) : Identity := ⟨spec.desc, spec.actor, dryRun⟩

/-- Checks that the load balancers of a region can be reached. -/
def connectBalancers (b : Backends) (region : String) : Except Fault String := do
  let region ← Balancer.lookupRegion region
  let _ ← b.settings.aws.require
  if !b.balancers then throw (Balancer.noBackend region)
  return region

/-- The instance ids of the option: one or a list. -/
def instanceIds : Value → List String
  | .string s => [s]
  | .array items => items.filterMap Value.str?
  | _ => []

/-- The largest age limit in seconds that a time span can hold. -/
def maxAgeSeconds : Nat := 9223372036854775

/-- Builds a note. -/
def note (spec : Spec) (dryRun : Bool) : Except Fault Actor := do
  let o ← spec.parseOptions noteShape
  return .note (identity spec dryRun) (text o "message")

/-- Builds a sleep. -/
def sleep (spec : Spec) (dryRun : Bool) : Except Fault Actor := do
  let o ← spec.parseOptions sleepShape
  let secs := match o.get? "sleep" with
    | some (.number n) => n.toDouble
    | _ => Number.Binary64.zero
  match Duration.ofSecondsDouble? secs with
  | some nanos => return .sleep (identity spec dryRun) nanos
  | none => throw (.invalidOptions spec.desc
      ("sleep must be a non-negative number of seconds, got " ++ secs.render Rollout.Number.Style.plain))

/-- Builds a health wait. -/
def waitHealthy (b : Backends) (spec : Spec) (dryRun : Bool) : Except Fault Actor := do
  let o ← spec.parseOptions healthShape
  let threshold ← match Threshold.ofValue ((o.get? "count").getD .null) with
    | .ok t => pure t
    | .error m => throw (.invalidOptions spec.desc m)
  let region ← connectBalancers b (text o "region")
  let name := text o "name"
  return .waitHealthy (identity spec dryRun) region name threshold
    (PollConfig.new ("Still waiting for " ++ name ++ " to become healthy"))

/-- Builds a membership change. -/
def membership (b : Backends) (change : Change) (spec : Spec) (dryRun : Bool) : Except Fault Actor := do
  let o ← spec.parseOptions membershipShape
  let ids := instanceIds ((o.get? "instance_id").getD .null)
  if ids.isEmpty || ids.any (fun id => (Text.trim id).isEmpty) then
    throw (.invalidOptions spec.desc "instance_id must name at least one instance")
  let region ← connectBalancers b (text o "region")
  return .membership (identity spec dryRun) change region (text o "elb") ids RetryPolicy.standard

/-- Builds a pruning, by date when `byDate`. -/
def prune (b : Backends) (byDate : Bool) (spec : Spec) (dryRun : Bool) : Except Fault Actor := do
  let o ← spec.parseOptions (if byDate then pruneByDateShape else pruneShape)
  let olderThan ← if byDate then do
      let secs := count o "older_than"
      if maxAgeSeconds < secs then throw (.invalidOptions spec.desc "older_than is too large")
      pure (some secs)
    else pure none
  let pattern ← Regex.ofOption spec.desc "packages_to_delete" (text o "packages_to_delete")
  let _ ← b.settings.repo.require
  return .prune (identity spec dryRun) (text o "repo") pattern (count o "number_to_keep") olderThan

/-- Builds a package wait. -/
def waitForPackage (b : Backends) (spec : Spec) (dryRun : Bool) : Except Fault Actor := do
  let o ← spec.parseOptions waitShape
  let name := text o "name"
  let version := text o "version"
  let namePattern ← Regex.ofOption spec.desc "name" name
  let versionPattern ← Regex.ofOption spec.desc "version" version
  let _ ← b.settings.repo.require
  let poll : PollConfig :=
    { interval := count o "sleep" * 1000, statusInterval := none,
      message := "Still waiting for " ++ name ++ " " ++ version }
  return .waitForPackage (identity spec dryRun) (text o "repo") namePattern versionPattern poll

/-- Builds a scripted step. -/
def step (spec : Spec) (dryRun : Bool) : Except Fault Actor := do
  let o ← spec.parseOptions stepShape
  let fault ← match o.get? "error" with
    | none | some .null => pure none
    | some d => match Fault.ofDescription d with
      | .ok f => pure (some f)
      | .error m => throw (.invalidOptions spec.desc m)
  return .step (identity spec dryRun)
    { result := flag o "result", delayMs := count o "delay_ms", waitCancel := flag o "wait_cancel",
      fault, cancel := flag o "cancel" }

/-- The specifications of a group's children. -/
def children (spec : Spec) : Except Fault (List Spec) := do
  let o ← spec.parseOptions groupShape
  match o.get? "acts" with
  | some (.array items) => return items.map Spec.ofRecord
  | _ => return []

mutual

/-- How deeply a value nests. -/
def depth (v : Value) : Nat :=
  match v with
  | .array items => 1 + depthItems items
  | .object fields => 1 + depthFields fields
  | _ => 0
termination_by sizeOf v

/-- The deepest nesting among items. -/
def depthItems (xs : List Value) : Nat :=
  match xs with
  | [] => 0
  | x :: rest => max (depth x) (depthItems rest)
termination_by sizeOf xs

/-- The deepest nesting among field values. -/
def depthFields (fs : List (String × Value)) : Nat :=
  match fs with
  | [] => 0
  | (_, x) :: rest => max (depth x) (depthFields rest)
termination_by sizeOf fs

end

end Assembly

mutual

/-- Builds the actor a specification describes, in a tree at most `fuel` groups deep. -/
def Actor.buildWithin (b : Backends) (dryRun : Bool) (fuel : Nat) (spec : Spec) :
    Except Fault Actor :=
  match b.registry.find? spec.actor with
  | none => throw (.unknownActor spec.actor)
  | some kind =>
    match kind with
    | .sync => Actor.groupWithin b dryRun fuel .sequential spec
    | .async => Actor.groupWithin b dryRun fuel .concurrent spec
    | .note => Assembly.note spec dryRun
    | .sleep => Assembly.sleep spec dryRun
    | .waitHealthy => Assembly.waitHealthy b spec dryRun
    | .register => Assembly.membership b .register spec dryRun
    | .deregister => Assembly.membership b .deregister spec dryRun
    | .deleteOld => Assembly.prune b false spec dryRun
    | .deleteByDate => Assembly.prune b true spec dryRun
    | .waitForPackage => Assembly.waitForPackage b spec dryRun
    | .step => Assembly.step spec dryRun
termination_by (fuel, 1)

/-- Builds a group in a mode from a specification, whatever kind it names. -/
def Actor.groupWithin (b : Backends) (dryRun : Bool) (fuel : Nat) (mode : GroupMode) (spec : Spec) :
    Except Fault Actor :=
  match fuel with
  | 0 => throw (.invalidOptions spec.desc "groups nest too deeply")
  | fuel + 1 => do
    let specs ← Assembly.children spec
    let children ← Actor.childrenWithin b dryRun fuel 1 specs
    return .group (Assembly.identity spec dryRun) mode children
termination_by (fuel, 0)

/-- Builds children in order, numbering them from `position`; the first failure is wrapped
with the child's position and label. -/
def Actor.childrenWithin (b : Backends) (dryRun : Bool) (fuel position : Nat) (specs : List Spec) :
    Except Fault (List Actor) :=
  match specs with
  | [] => pure []
  | s :: rest => do
    let a ← (Actor.buildWithin b dryRun fuel s).mapError (.child position s.desc)
    let more ← Actor.childrenWithin b dryRun fuel (position + 1) rest
    return a :: more
termination_by (fuel, specs.length + 2)

end

/-- Builds the actor a specification describes. -/
def Actor.build (b : Backends) (spec : Spec) (dryRun : Bool) : Except Fault Actor :=
  Actor.buildWithin b dryRun (Assembly.depth (.object spec.options) + 1) spec

/-- Builds a group in a mode from a specification; the kind the specification names is kept
in the group's identity but not consulted. -/
def Actor.buildGroup (b : Backends) (spec : Spec) (dryRun : Bool) (mode : GroupMode) :
    Except Fault Actor :=
  Actor.groupWithin b dryRun (Assembly.depth (.object spec.options) + 1) mode spec

mutual

/-- The specifications whose building starts when a tree is built, in order: each one of a
known kind, before its children; building stops at the first child that fails. -/
def Actor.startedWithin (b : Backends) (dryRun : Bool) (fuel : Nat) (spec : Spec) : List Spec :=
  match b.registry.find? spec.actor with
  | none => []
  | some kind =>
    spec :: match kind with
      | .sync | .async => Actor.groupStarted b dryRun fuel spec
      | _ => []
termination_by (fuel, 1)

/-- The specifications whose building starts under a group. -/
def Actor.groupStarted (b : Backends) (dryRun : Bool) (fuel : Nat) (spec : Spec) : List Spec :=
  match fuel with
  | 0 => []
  | fuel + 1 =>
    match Assembly.children spec with
    | .error _ => []
    | .ok specs => Actor.childrenStarted b dryRun fuel specs
termination_by (fuel, 0)

/-- The specifications whose building starts for children in order. -/
def Actor.childrenStarted (b : Backends) (dryRun : Bool) (fuel : Nat) (specs : List Spec) :
    List Spec :=
  match specs with
  | [] => []
  | s :: rest =>
    Actor.startedWithin b dryRun fuel s ++
      (match Actor.buildWithin b dryRun fuel s with
        | .ok _ => Actor.childrenStarted b dryRun fuel rest
        | .error _ => [])
termination_by (fuel, specs.length + 2)

end

/-- The debug events of building a tree: one for each actor whose building starts. -/
def Actor.buildLog (b : Backends) (spec : Spec) (dryRun : Bool) : List Event :=
  (Actor.startedWithin b dryRun (Assembly.depth (.object spec.options) + 1) spec).map fun s =>
    { level := .debug, origin := .registry, message := "Building actor",
      fields := [("desc", s.desc), ("kind", s.actor), ("dry_run", toString dryRun)] }

theorem build_unknown (b : Backends) (spec : Spec) (dryRun : Bool)
    (h : b.registry.find? spec.actor = none) :
    Actor.build b spec dryRun = .error (.unknownActor spec.actor) := by
  rw [Actor.build, Actor.buildWithin, h]
  rfl

end Rollout
