import Mathlib
import Rollout.Proofs.Yields
/-!
# Scenarios: a scripted call, and a run cancelled at an instant

The loops studied here call something that answers from a script, at no cost in time, and run
on a run that is cancelled from outside at most once, at a given instant, or was cancelled
before it began. The world records the time of each call (`scripted`). A wait until `t` on
such a run ends in one of three ways (`WaitEnd`): at once if the run was already cancelled, at
the cancellation if it falls before `t`, and at `t` otherwise. A cancellation at the very
instant `t` comes after the wait has ended.

A sleep that a cancellation does not interrupt ends at its time, and the run is then cancelled
exactly when it was cancelled before that time; a cancellation at that time or later is still to
come (`yields_sleepFor_cancelAt`).

* `scripted_yields`: call `n` answers the `n`-th scripted answer and is recorded at its time;
* `yields_waitUntil_cancelAt`, `sleepFor_yields`: a wait, and a sleep that a cancellation
  interrupts, end in one of those ways;
* `yields_sleepFor_cancelAt`: a sleep that a cancellation does not interrupt.
-/

namespace Rollout

variable {σ β τ : Type}

/-- A call answering from a script: the world lists the times of the calls made so far, and call
`n` (from one) answers `o n`. -/
def scripted {α : Type} (o : Nat → Except Fault α) : Job (List Nat) β τ α := do
  let calls ← Job.lift Exec.observe
  let t ← Job.lift Exec.now
  Job.lift (Exec.modify fun _ => calls ++ [t])
  match o (calls.length + 1) with
  | .ok a => pure a
  | .error e => throw e

theorem scripted_yields {α : Type} {o : Nat → Except Fault α} {s : Scope}
    {m : Machine (List Nat)} {hs : List (Nat × Happening (List Nat))} :
    (scripted o : Job (List Nat) β τ α).Yields s m hs fun r m' hs' =>
      r = o (m.world.length + 1) ∧ m' = { m with world := m.world ++ [m.now] } ∧ hs' = hs := by
  apply Job.Yields.bind
  apply Job.yields_lift
  apply Exec.yields_observe
  apply Job.Yields.bind
  apply Job.yields_lift
  apply Exec.yields_now
  apply Job.Yields.bind
  apply Job.yields_lift
  apply Exec.yields_modify
  show Job.Yields (match o (m.world.length + 1) with | .ok a => pure a | .error e => throw e) _ _ _ _
  cases o (m.world.length + 1) with
  | ok a => exact Job.yields_pure ⟨rfl, rfl, rfl⟩
  | error e => exact Job.yields_throw ⟨rfl, rfl, rfl⟩

/-- The happenings of a run cancelled from outside at `c`, if at all. -/
def cancelAt : Option Nat → List (Nat × Happening σ)
  | none => []
  | some x => [(x, .cancel)]

/-- Whether a run is cancelled before time `t`: from the start (`c₀`), or at an instant before
`t`. -/
def cancelledBefore (c₀ : Bool) (c : Option Nat) (t : Nat) : Bool :=
  c₀ || c.any fun x => decide (x < t)

/-- A single cancellation needs no scheduling. -/
@[simp] theorem schedule_cancelAt (c : Option Nat) :
    Happening.schedule (cancelAt c : List (Nat × Happening σ)) = cancelAt c := by
  cases c <;> simp [Happening.schedule, cancelAt]

/-- A run cancelled from outside at `t` or later is cancelled before `t` only from the start. -/
theorem cancelledBefore_of_le {c₀ : Bool} {c : Option Nat} {t : Nat}
    (hx : ∀ x, c = some x → t ≤ x) : cancelledBefore c₀ c t = c₀ := by
  cases c with
  | none => simp [cancelledBefore]
  | some x =>
    have hxt : ¬x < t := Nat.not_lt.2 (hx x rfl)
    simp [cancelledBefore, hxt]

/-- Cancelled before `t`, or before `t'` by a cancellation still to come at `t`: cancelled before
`t'`. -/
theorem cancelledBefore_later {c₀ : Bool} {c : Option Nat} {t t' : Nat} (h : t ≤ t') :
    cancelledBefore (cancelledBefore c₀ c t) (c.filter (t ≤ ·)) t' = cancelledBefore c₀ c t' := by
  cases c with
  | none => simp [cancelledBefore]
  | some x =>
    by_cases hx : t ≤ x
    · simp [cancelledBefore, Option.filter, hx, Nat.not_lt.2 hx]
    · have hx' : x < t' := by omega
      simp [cancelledBefore, Option.filter, hx, Nat.not_le.1 hx, hx']

/-- A cancellation still to come at `t` comes at `t` or later. -/
theorem le_of_filter {c : Option Nat} {t x : Nat} (h : c.filter (t ≤ ·) = some x) : t ≤ x := by
  cases c with
  | none => cases h
  | some y =>
    by_cases hy : t ≤ y
    · simp only [Option.filter, hy, decide_true] at h
      cases h
      exact hy
    · simp [Option.filter, hy] at h

/-- How a wait until `t`, begun on `m` with the run to be cancelled at `c`, can end: with whether
it was cancelled, the machine and the happenings to come. -/
inductive WaitEnd (m : Machine σ) (c : Option Nat) (t : Nat) : Post σ Bool
  /-- The run was cancelled before the wait began: the wait ends at once. -/
  | before (hc : m.cancelled = true) : WaitEnd m c t true m (cancelAt c)
  /-- The run is cancelled at `x`, before `t`: the wait ends then. -/
  | cut {x : Nat} (hc : m.cancelled = false) (hx : c = some x) (hxt : x < t) :
      WaitEnd m c t true ({ m with now := x }.cancel []) []
  /-- The wait reaches `t`, the run not cancelled before. -/
  | wake (hc : m.cancelled = false) (hx : ∀ x, c = some x → t ≤ x) :
      WaitEnd m c t false { m with now := max t m.now } (cancelAt c)

namespace WaitEnd

variable {m m' : Machine σ} {c : Option Nat} {t : Nat} {b : Bool} {hs' : List (Nat × Happening σ)}

/-- A wait ends cancelled exactly when the run is cancelled before its time. -/
theorem cancelled_eq (h : WaitEnd m c t b m' hs') : b = cancelledBefore m.cancelled c t := by
  cases h with
  | before hc => simp [cancelledBefore, hc]
  | cut hc hx hxt => simp [cancelledBefore, hc, hx, hxt]
  | wake hc hx =>
    cases c with
    | none => simp [cancelledBefore, hc]
    | some x => simpa [cancelledBefore, hc] using hx x rfl

theorem world_eq (h : WaitEnd m c t b m' hs') : m'.world = m.world := by
  cases h <;> simp

end WaitEnd

/-- A wait on a run to be cancelled at `c`, not before now, ends as `WaitEnd` says. -/
theorem yields_waitUntil_cancelAt {m : Machine σ} {s : Scope} {c : Option Nat} {t : Nat}
    (hx : ∀ x, c = some x → m.now ≤ x) :
    (Exec.waitUntil t : Exec σ β τ Bool).Yields s m (cancelAt c) (WaitEnd m c t) := by
  apply Exec.yields_waitUntil
  by_cases hc : m.cancelled = true
  · rw [if_pos hc]
    exact .before hc
  have hc' : m.cancelled = false := by simpa using hc
  rw [if_neg hc]
  split
  · -- the time has come: no happening falls before it, and the clock stays
    rename_i ht
    have e : ({ m with now := max t m.now } : Machine σ) = m := by
      rw [Nat.max_eq_right ht]
    have h := WaitEnd.wake (m := m) hc' fun x hcx => Nat.le_trans ht (hx x hcx)
    rwa [e] at h
  · -- the machine waits, cut short by a cancellation before `t`
    rename_i ht
    cases c with
    | none => simpa [cancelAt, Machine.await, hc'] using WaitEnd.wake (c := none) (t := t) hc' (by simp)
    | some x =>
      have hmx := hx x rfl
      by_cases hxt : x < t
      · by_cases hxn : x ≤ m.now
        · have e : ({ m with now := x } : Machine σ) = m := by
            rw [Nat.le_antisymm hxn hmx]
          have := WaitEnd.cut (m := m) hc' rfl hxt
          rw [e] at this
          simpa [cancelAt, Machine.await, Machine.apply, hxn, hc'] using this
        · simpa [cancelAt, Machine.await, Machine.apply, hxn, hc', Nat.not_le.2 hxt]
            using WaitEnd.cut (m := m) hc' rfl hxt
      · have hxn : ¬x ≤ m.now := by omega
        simpa [cancelAt, Machine.await, hxn, hc', Nat.not_lt.1 hxt]
          using WaitEnd.wake (c := some x) (m := m) hc' (by simpa using Nat.not_lt.1 hxt)

/-- A sleep until `t` that a cancellation does not cut short, on a run to be cancelled at `c`, not
before now, ends at `t` (or now, if later) with the world as it was. -/
theorem yields_sleepUntil_cancelAt {m : Machine σ} {s : Scope} {c : Option Nat} {t : Nat}
    (hx : ∀ x, c = some x → m.now ≤ x) :
    (Exec.sleepUntil t : Exec σ β τ Unit).Yields s m (cancelAt c) fun _ m' hs' =>
      m'.world = m.world ∧ m'.now = max t m.now ∧
        m'.cancelled = cancelledBefore m.cancelled c t ∧ hs' = cancelAt (c.filter (t ≤ ·)) := by
  apply Exec.yields_sleepUntil
  split
  · -- the time has come: a cancellation to come falls at `t` or later
    rename_i ht
    have hlater : ∀ x, c = some x → t ≤ x := fun x hcx => Nat.le_trans ht (hx x hcx)
    refine ⟨rfl, by omega, (cancelledBefore_of_le hlater).symm, ?_⟩
    cases c with
    | none => rfl
    | some x => simp [Option.filter, hlater x rfl]
  · rename_i ht
    cases c with
    | none => simp [cancelAt, Machine.await, cancelledBefore]
    | some x =>
      have hmx := hx x rfl
      by_cases hxn : x ≤ m.now
      · -- the cancellation falls now, before the sleep ends
        have hxt : x < t := by omega
        simp [cancelAt, Machine.await, Machine.apply, hxn, cancelledBefore, Option.filter, hxt,
          Nat.not_le.2 hxt]
      · by_cases hxt : x < t
        · simp [cancelAt, Machine.await, Machine.apply, hxn, cancelledBefore, Option.filter, hxt,
            Nat.not_le.2 hxt]
          omega
        · simp [cancelAt, Machine.await, hxn, cancelledBefore, Option.filter, hxt,
            Nat.not_lt.1 hxt]

/-- Where a sleep for `d` that a cancellation does not cut short leaves a run begun on `m` and to
be cancelled at `c`: `d` later, with the world as it was, cancelled exactly when it was cancelled
before then, and a cancellation at that time or later still to come. -/
structure Slept (m : Machine σ) (c : Option Nat) (d : Nat) (m' : Machine σ)
    (hs' : List (Nat × Happening σ)) : Prop where
  world : m'.world = m.world
  now : m'.now = m.now + d
  cancelled : m'.cancelled = cancelledBefore m.cancelled c (m.now + d)
  pending : hs' = cancelAt (c.filter (m.now + d ≤ ·))

/-- A sleep for `d` that a cancellation does not cut short, on a run to be cancelled at `c`, not
before now, ends as `Slept` says. -/
theorem yields_sleepFor_cancelAt {m : Machine σ} {s : Scope} {c : Option Nat} {d : Nat}
    (hx : ∀ x, c = some x → m.now ≤ x) :
    (Exec.sleepFor d : Exec σ β τ Unit).Yields s m (cancelAt c) fun _ => Slept m c d := by
  apply Exec.Yields.bind
  apply Exec.yields_now
  refine (yields_sleepUntil_cancelAt hx).mono fun _ m' hs' h => ?_
  obtain ⟨hw, hnow, hc, hhs⟩ := h
  exact ⟨hw, by omega, hc, hhs⟩

/-- A sleep that a cancellation interrupts fails with the cancellation fault exactly when its wait
is cut short. -/
theorem sleepFor_yields {m : Machine σ} {s : Scope} {c : Option Nat} {d : Nat}
    (hx : ∀ x, c = some x → m.now ≤ x) :
    (Job.sleepFor d : Job σ β τ Unit).Yields s m (cancelAt c) fun r m' hs' =>
      ∃ b, WaitEnd m c (m.now + d) b m' hs' ∧ r = if b then .error .cancelled else .ok () := by
  apply Job.Yields.bind
  apply Job.yields_lift
  apply Exec.yields_now
  apply Job.Yields.bind
  apply Job.yields_lift
  refine (yields_waitUntil_cancelAt hx).mono fun b m' hs' h => ?_
  cases b with
  | true => exact Job.yields_throw ⟨true, h, rfl⟩
  | false => exact Job.yields_pure ⟨false, h, rfl⟩

end Rollout
