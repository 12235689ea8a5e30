/-!
# Retry policies

A retry policy bounds the attempts of a call (or leaves them unbounded) and spaces them: the
delay after failed attempt `a` is the base doubled `a - 1` times (attempt 0 counts as 1), each
step saturating at the largest 64-bit value, and capped by the maximum. With jitter the delay
is spread by up to a quarter of itself either way: from the capped delay `c`, with
`r = max (c / 4) 1`, a random word `w` gives `c - r + w mod 2r`.

* `backoff_le_max`: without jitter the delay never exceeds the cap.
-/

-- Powers of numbers use the core instance, whatever else is imported.
attribute [local instance(high)] instPowNat

namespace Rollout

/-- The largest 64-bit value. -/
def wordMax : Nat := 2 ^ (64 : Nat) - 1

/-- Product saturating at the largest 64-bit value. -/
def satMul (a b : Nat) : Nat := min (a * b) wordMax

/-- `2 ^ k` saturating at the largest 64-bit value. -/
def pow2Sat (k : Nat) : Nat := if k < 64 then 2 ^ k else wordMax

/-- Attempt limits and delays of a retried call. -/
structure RetryPolicy where
  /-- Attempts before giving up; `none` retries until success or cancellation. -/
  maxAttempts : Option Nat
  baseBackoffMs : Nat
  maxBackoffMs : Nat
  useJitter : Bool
deriving DecidableEq, Inhabited

namespace RetryPolicy

/-- Five attempts, from a quarter second up to half a minute, with jitter. -/
def standard : RetryPolicy := ⟨some 5, 250, 30000, true⟩

/-- A policy with jitter. -/
def new (maxAttempts : Option Nat) (base max : Nat) : RetryPolicy := ⟨maxAttempts, base, max, true⟩

/-- Retries until success or cancellation. -/
def unbounded (p : RetryPolicy) : RetryPolicy := { p with maxAttempts := none }

/-- The same policy without jitter. -/
def withoutJitter (p : RetryPolicy) : RetryPolicy := { p with useJitter := false }

/-- The delay after a failed attempt before jitter: doubled per attempt, saturating, capped. -/
def cappedBackoff (p : RetryPolicy) (attempt : Nat) : Nat :=
  min (satMul p.baseBackoffMs (pow2Sat (attempt - 1))) p.maxBackoffMs

/-- Half the width of the jitter around a capped delay. -/
def jitterRange (c : Nat) : Nat := max (c / 4) 1

/-- The delay after a failed attempt, in milliseconds, given a random word for the jitter. -/
def backoff (p : RetryPolicy) (attempt word : Nat) : Nat :=
  let c := p.cappedBackoff attempt
  if p.useJitter then
    let r := jitterRange c
    min (c - r + word % satMul r 2) wordMax
  else c

/-- Whether another attempt may follow failed attempt `attempt`. -/
def allowsRetry (p : RetryPolicy) (attempt : Nat) : Bool :=
  match p.maxAttempts with
  | none => true
  | some m => decide (attempt < m)

theorem backoff_le_max (p : RetryPolicy) (attempt word : Nat) (h : p.useJitter = false) :
    p.backoff attempt word ≤ p.maxBackoffMs := by
  simp only [backoff, h, cappedBackoff, Bool.false_eq_true, if_false]
  exact Nat.min_le_right _ _

end RetryPolicy

end Rollout
