import Rollout.Program
/-!
# Waiting for a condition

A wait evaluates a condition again and again until it holds. Between two evaluations it sleeps
a fixed interval, and while sleeping it writes a notice ("still waiting") once per status
interval, counted from the start of the wait: the notices fall due at the start plus one,
two, three periods, and each tells the whole seconds waited so far.

* Before each evaluation, a cancelled run ends the wait, unsatisfied.
* A condition that holds ends it satisfied.
* In a dry run a condition that does not hold is taken to hold: the wait ends satisfied and
  simulated, after one evaluation.
* A fault of the condition ends the wait with that fault.
* While sleeping, cancellation comes first, then a notice that falls due, then the end of the
  sleep: a notice due at the very end of a sleep is written before the next evaluation, and
  the notices written before a cancellation count.

The evaluations and the notices are counted in 32-bit words, each held at the largest word
(`countMax`) once it gets there.

The loop has no bound of its own; only cancellation ends a wait that is never satisfied. Its
definition counts rounds down from a bound larger than any run can reach, and a sleep counts
its rounds down from one more than its length in milliseconds, more than the notices it holds.

* `PollResult.intoResult_cancelled`: a cancelled wait is the cancellation fault.
-/

-- Powers of numbers use the core instance, whatever else is imported.
attribute [local instance(high)] instPowNat

namespace Rollout

/-- The timing and notice text of a wait. -/
structure PollConfig where
  /-- Milliseconds between two evaluations. -/
  interval : Nat := 3000
  /-- Milliseconds between two notices, positive; none writes no notices. -/
  statusInterval : Option Nat := some 30000
  /-- The text of a notice. -/
  message : String := "Still waiting"
deriving Inhabited

/-- The default timing with a notice text. -/
def PollConfig.new (message : String) : PollConfig := { message }

/-- How a wait ended. -/
structure PollResult where
  /-- The condition held, or was taken to hold in a dry run. -/
  satisfied : Bool
  /-- It was taken to hold because of the dry run. -/
  simulated : Bool
  /-- The run was cancelled first. -/
  cancelled : Bool
  /-- Evaluations made, at most `countMax`. -/
  evaluations : Nat
  /-- Notices written, at most `countMax`. -/
  notices : Nat
  /-- Milliseconds spent waiting. -/
  elapsed : Nat
deriving DecidableEq, Inhabited

/-- A cancelled wait as the cancellation fault, any other as itself. -/
def PollResult.intoResult (r : PollResult) : Except Fault PollResult :=
  if r.cancelled then .error .cancelled else .ok r

theorem PollResult.intoResult_cancelled (r : PollResult) (h : r.cancelled = true) :
    r.intoResult = .error .cancelled := by
  simp [intoResult, h]

/-- The largest count a wait reports: the largest 32-bit word. -/
def countMax : Nat := 2 ^ (32 : Nat) - 1

/-- A count one higher, held at `countMax`. -/
def countUp (n : Nat) : Nat := min (n + 1) countMax

/-- More rounds than any run can take. -/
def roundBound : Nat := 2 ^ (64 : Nat)

namespace Poll

variable {σ β τ : Type}

/-- The counts of a wait under way. -/
structure Tally where
  started : Nat
  evaluations : Nat := 0
  notices : Nat := 0

/-- The result of a wait, with the time spent. -/
def Tally.finish (t : Tally) (satisfied simulated cancelled : Bool) : Exec σ β τ PollResult := do
  let now ← Exec.now
  return ⟨satisfied, simulated, cancelled, t.evaluations, t.notices, now - t.started⟩

/-- How the sleep between two evaluations ended: at its wake, with the tally and the time the
next notice falls due, or cut short by cancellation, with the tally so far. -/
inductive Slept where
  | woke (t : Tally) (due : Option Nat)
  | cancelled (t : Tally)

/-- The sleep between two evaluations, until `wake`: writes the notices that fall due, and
tells how it ended. -/
def pause (config : PollConfig) (wake : Nat) :
    Nat → Tally → Option Nat → Exec σ β τ Slept
  | 0, t, due => pure (.woke t due)
  | rounds + 1, t, due => do
    let target := match due with
      | some n => min n wake
      | none => wake
    if ← Exec.waitUntil target then return .cancelled t
    match due, config.statusInterval with
    | some n, some period =>
      if n ≤ target then
        let now ← Exec.now
        let t := { t with notices := countUp t.notices }
        Exec.info .poll config.message [("waited_secs", toString ((now - t.started) / 1000))]
        pause config wake rounds t (some (n + period))
      else return .woke t due
    | _, _ => return .woke t due

/-- Evaluation rounds: evaluates, and sleeps while the condition does not hold. -/
def rounds (check : Job σ β τ Bool) (config : PollConfig) (dryRun : Bool) :
    Nat → Tally → Option Nat → Job σ β τ PollResult
  | 0, t, _ => Job.lift (t.finish false false true)
  | n + 1, t, due => do
    if ← Job.lift Exec.isCancelled then
      Job.lift (Exec.debug .poll "Poll cancelled before evaluation"
        [("evaluations", toString t.evaluations)])
      return ← Job.lift (t.finish false false true)
    let holds ← check
    let t := { t with evaluations := countUp t.evaluations }
    if holds then
      Job.lift (Exec.debug .poll "Condition satisfied" [("evaluations", toString t.evaluations)])
      return ← Job.lift (t.finish true false false)
    if dryRun then
      Job.lift (Exec.info .poll "Pretending the condition is satisfied")
      return ← Job.lift (t.finish true true false)
    Job.lift (Exec.debug .poll "Condition not met" [("retry_in_ms", toString config.interval)])
    let now ← Job.lift Exec.now
    -- a sleep holds at most one notice for each millisecond of it
    match ← Job.lift (pause config (now + config.interval) (config.interval + 1) t due) with
    | .cancelled t =>
      Job.lift (Exec.debug .poll "Poll cancelled while sleeping"
        [("evaluations", toString t.evaluations)])
      Job.lift (t.finish false false true)
    | .woke t due => rounds check config dryRun n t due

end Poll

/-- Evaluates a condition until it holds, the run is cancelled, or (in a dry run) once. -/
def pollUntil {σ β τ : Type} (check : Job σ β τ Bool) (config : PollConfig) (dryRun : Bool) :
    Job σ β τ PollResult := do
  let started ← Job.lift Exec.now
  let due := config.statusInterval.map (started + ·)
  Poll.rounds check config dryRun roundBound { started } due

end Rollout
