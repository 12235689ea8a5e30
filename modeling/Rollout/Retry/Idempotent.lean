import Rollout.Program
import Rollout.Retry.Policy
/-!
# Retrying an idempotent call

A call that may safely be repeated is attempted until it succeeds, counting attempts from one.

* A fault that is not operational (a configuration fault, an unrecoverable one or a
  cancellation) ends the loop at once with that fault.
* An operational fault on an attempt the policy allows no retry after is logged ("Giving up",
  with the attempts made) and ends the loop with that fault.
* Otherwise the delay for the attempt is logged ("Transient failure, retrying") and slept; a
  cancellation before or during the sleep ends the loop with the cancellation fault.
* A success after a failed attempt is logged at level debug with the fault it recovered from.

The loop has no bound of its own; its definition counts attempts down from a bound larger than
any run can reach.
-/

-- Powers of numbers use the core instance, whatever else is imported.
attribute [local instance(high)] instPowNat

namespace Rollout

namespace Retry

variable {σ β τ : Type}

/-- Attempts from `attempt` on, with `left` attempts to go and the fault of the attempt before,
if it failed. -/
def attempts {α : Type} (policy : RetryPolicy) (operation : String) (call : Job σ β τ α) :
    Nat → Nat → Option Fault → Job σ β τ α
  | 0, _, _ => throw .cancelled
  | left + 1, attempt, last => do
    match ← Job.lift call.attempt with
    | .ok v =>
      if let some recovered := last then
        Job.lift (Exec.debug .retry "Succeeded after retry"
          [("operation", operation), ("attempts", toString attempt), ("recovered", recovered.message)]
          ["operation"])
      return v
    | .error e =>
      if !e.isRetryable then throw e
      if !policy.allowsRetry attempt then
        Job.lift (Exec.warn .retry "Giving up"
          [("operation", operation), ("attempts", toString attempt), ("error", e.message)]
          ["operation"])
        throw e
      let word ← Job.lift Exec.draw
      let delay := policy.backoff attempt word
      Job.lift (Exec.warn .retry "Transient failure, retrying"
        [("operation", operation), ("attempt", toString attempt), ("retry_in_ms", toString delay),
          ("error", e.message)] ["operation"])
      Job.sleepFor delay
      attempts policy operation call left (attempt + 1) (some e)

end Retry

/-- More attempts than any run can make. -/
def attemptBound : Nat := 2 ^ (64 : Nat)

/-- Runs an idempotent call under a retry policy. -/
def retryIdempotent {σ β τ α : Type} (policy : RetryPolicy) (operation : String)
    (call : Job σ β τ α) : Job σ β τ α :=
  Retry.attempts policy operation call attemptBound 1 none

end Rollout
