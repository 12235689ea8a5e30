import Rollout.Program
/-!
# Replayed answers

Test worlds stand a replay in for a condition or an external call: the world is the number of
answers given so far, and answer `n` (counting from one) is the `n`-th recorded one, the last
repeating once the record runs out, a fixed answer when there is none. The answer numbered
`cancelOn`, and in any case answer `replayGuard`, cancels the run before it is given, so a
loop over a replay that never succeeds ends.

* `pick_last`: past the end of the record, the last answer repeats.
-/

namespace Rollout.Replay

/-- The answer that cancels the run in any case. -/
def replayGuard : Nat := 1000

/-- Answer `n` (from one) of a record. -/
def pick {α : Type} (record : List α) (otherwise : α) (n : Nat) : α :=
  match record[n - 1]? with
  | some a => a
  | none => record.getLast?.getD otherwise

theorem pick_last {α : Type} (record : List α) (otherwise : α) (n : Nat) (h : record.length < n) :
    pick record otherwise n = record.getLast?.getD otherwise := by
  have : record[n - 1]? = none := List.getElem?_eq_none (by omega)
  simp [pick, this]

/-- Gives the next recorded answer, counting it. -/
def next {β τ α : Type} (record : List (Except Fault α)) (otherwise : α) (cancelOn : Option Nat) :
    Job Nat β τ α := do
  let n := (← Job.lift Exec.observe) + 1
  Job.lift (Exec.modify fun _ => n)
  if cancelOn == some n || n == replayGuard then Job.lift Exec.cancel
  match pick record (.ok otherwise) n with
  | .ok a => pure a
  | .error e => throw e

end Rollout.Replay
