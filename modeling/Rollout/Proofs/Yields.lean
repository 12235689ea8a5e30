import Mathlib
import Rollout.Proofs.Alone
/-!
# What a computation hands on when it runs alone

A computation is known by what it hands to the program that follows it. `Exec.Yields x s m hs Q`
says that, run alone under scope `s` from machine `m` with the happenings `hs` still to come,
`x` hands an answer to whatever follows, on a machine and with happenings to come that together
satisfy `Q`. There is one rule for each request and one for `bind`, which reads as a weakest
precondition: `x >>= f` yields `Q` when `x` yields that `f` of its answer yields `Q`.
`Job.Yields` is the same for computations that may fail, whose answer is a value or a fault.

* `Exec.Yields.program`: a computation that yields `Q` is, as a whole program, answered alone
  with an answer and a machine that satisfy `Q`.
-/

namespace Rollout

variable {σ β τ α γ : Type}

/-- A condition on what a computation leaves: its answer, the machine, the happenings to come. -/
abbrev Post (σ α : Type) : Type := α → Machine σ → List (Nat × Happening σ) → Prop

namespace Exec

/-- Run alone under scope `s` from `m` with `hs` to come, `x` hands to whatever follows it an
answer, a machine and happenings to come that satisfy `Q`. -/
def Yields (x : Exec σ β τ α) (s : Scope) (m : Machine σ) (hs : List (Nat × Happening σ))
    (Q : Post σ α) : Prop :=
  ∀ k : α → Program σ β τ, ∃ a m' hs', Q a m' hs' ∧ (x s k).alone m hs = (k a).alone m' hs'

variable {x : Exec σ β τ α} {s : Scope} {m : Machine σ} {hs : List (Nat × Happening σ)}
  {Q R : Post σ α}

theorem Yields.mono (h : x.Yields s m hs Q) (hQ : ∀ a m' hs', Q a m' hs' → R a m' hs') :
    x.Yields s m hs R := fun k => by
  obtain ⟨a, m', hs', hq, e⟩ := h k
  exact ⟨a, m', hs', hQ a m' hs' hq, e⟩

theorem yields_pure {a : α} (h : Q a m hs) : (pure a : Exec σ β τ α).Yields s m hs Q :=
  fun _ => ⟨a, m, hs, h, rfl⟩

/-- A computation followed by another yields what the second yields from where the first
leaves off. -/
theorem Yields.bind {f : α → Exec σ β τ γ} {Q : Post σ γ}
    (h : x.Yields s m hs fun a m' hs' => (f a).Yields s m' hs' Q) :
    (x >>= f).Yields s m hs Q := fun k => by
  obtain ⟨a, m₁, hs₁, h₁, e₁⟩ := h fun a => f a s k
  obtain ⟨b, m₂, hs₂, h₂, e₂⟩ := h₁ k
  exact ⟨b, m₂, hs₂, h₂, e₁.trans e₂⟩

/-- A whole program made of a computation is answered alone as the computation yields. -/
theorem Yields.program {x : Exec σ β τ τ} {Q : Post σ τ} (h : x.Yields [] m hs Q) :
    ∃ a m' hs', Q a m' hs' ∧ (program x).alone m hs = (m', some a) := by
  obtain ⟨a, m', hs', hq, e⟩ := h .finish
  exact ⟨a, m', hs', hq, e⟩

/-! ### One rule for each request -/

theorem yields_observe {Q : Post σ σ} (h : Q m.world m hs) :
    (observe : Exec σ β τ σ).Yields s m hs Q :=
  fun _ => ⟨_, m, hs, h, rfl⟩

theorem yields_modify {f : σ → σ} {Q : Post σ Unit} (h : Q () { m with world := f m.world } hs) :
    (modify f : Exec σ β τ Unit).Yields s m hs Q :=
  fun _ => ⟨_, _, hs, h, rfl⟩

theorem yields_now {Q : Post σ Nat} (h : Q m.now m hs) : (now : Exec σ β τ Nat).Yields s m hs Q :=
  fun _ => ⟨_, m, hs, h, rfl⟩

theorem yields_say {e : Event} {Q : Post σ Unit}
    (h : Q () { m with journal := m.journal.push (s, e) } hs) :
    (say e : Exec σ β τ Unit).Yields s m hs Q :=
  fun _ => ⟨_, _, hs, h, rfl⟩

theorem yields_isCancelled {Q : Post σ Bool} (h : Q m.cancelled m hs) :
    (isCancelled : Exec σ β τ Bool).Yields s m hs Q :=
  fun _ => ⟨_, m, hs, h, rfl⟩

theorem yields_cancel {Q : Post σ Unit} (h : Q () (m.cancel s) hs) :
    (cancel : Exec σ β τ Unit).Yields s m hs Q :=
  fun _ => ⟨_, _, hs, h, rfl⟩

theorem yields_draw {Q : Post σ Nat} (h : Q m.draw.2 m.draw.1 hs) :
    (draw : Exec σ β τ Nat).Yields s m hs Q :=
  fun _ => ⟨_, _, hs, h, rfl⟩

theorem yields_pause {Q : Post σ Unit} (h : Q () m hs) : (pause : Exec σ β τ Unit).Yields s m hs Q :=
  fun _ => ⟨_, m, hs, h, rfl⟩

/-- A wait ends at once, cancelled, on a cancelled run, and at once, not cancelled, when its time
has come; otherwise it ends as the machine waits. -/
theorem yields_waitUntil {t : Nat} {Q : Post σ Bool}
    (h : if m.cancelled then Q true m hs
      else if t ≤ m.now then Q false m hs
      else Q (m.await t true hs).1.cancelled (m.await t true hs).1 (m.await t true hs).2) :
    (waitUntil t : Exec σ β τ Bool).Yields s m hs Q := fun k => by
  by_cases hc : m.cancelled = true
  · rw [if_pos hc] at h
    exact ⟨true, m, hs, h, by simp [waitUntil, Program.alone, hc]⟩
  · by_cases ht : t ≤ m.now
    · rw [if_neg hc, if_pos ht] at h
      exact ⟨false, m, hs, h, by simp [waitUntil, Program.alone, hc, ht]⟩
    · rw [if_neg hc, if_neg ht] at h
      exact ⟨_, _, _, h, by simp [waitUntil, Program.alone, hc, ht]⟩

/-- A sleep ends at once when its time has come; otherwise it ends as the machine waits, which
a cancellation does not cut short. -/
theorem yields_sleepUntil {t : Nat} {Q : Post σ Unit}
    (h : if t ≤ m.now then Q () m hs else Q () (m.await t false hs).1 (m.await t false hs).2) :
    (sleepUntil t : Exec σ β τ Unit).Yields s m hs Q := fun k => by
  by_cases ht : t ≤ m.now
  · rw [if_pos ht] at h
    exact ⟨(), m, hs, h, by simp [sleepUntil, Program.alone, ht]⟩
  · rw [if_neg ht] at h
    exact ⟨(), _, _, h, by simp [sleepUntil, Program.alone, ht]⟩

theorem yields_within {i : Identity} (h : x.Yields (i :: s) m hs Q) :
    (within i x).Yields s m hs Q := h

end Exec

namespace Job

/-- What a computation that may fail yields, its answer being a value or a fault. -/
def Yields (x : Job σ β τ α) (s : Scope) (m : Machine σ) (hs : List (Nat × Happening σ))
    (Q : Post σ (Except Fault α)) : Prop :=
  Exec.Yields x.run s m hs Q

variable {s : Scope} {m : Machine σ} {hs : List (Nat × Happening σ)} {Q : Post σ (Except Fault α)}

theorem Yields.mono {x : Job σ β τ α} {R : Post σ (Except Fault α)} (h : x.Yields s m hs Q)
    (hQ : ∀ r m' hs', Q r m' hs' → R r m' hs') : x.Yields s m hs R :=
  Exec.Yields.mono h hQ

theorem yields_pure {a : α} (h : Q (.ok a) m hs) : (pure a : Job σ β τ α).Yields s m hs Q :=
  fun _ => ⟨_, m, hs, h, rfl⟩

theorem yields_throw {e : Fault} (h : Q (.error e) m hs) :
    (throw e : Job σ β τ α).Yields s m hs Q :=
  fun _ => ⟨_, m, hs, h, rfl⟩

theorem yields_lift {x : Exec σ β τ α} (h : x.Yields s m hs fun a => Q (.ok a)) :
    (lift x).Yields s m hs Q := fun k => by
  obtain ⟨a, m', hs', hq, e⟩ := h fun a => k (.ok a)
  exact ⟨.ok a, m', hs', hq, e⟩

/-- A job followed by another: a fault of the first is the fault of both. -/
theorem Yields.bind {x : Job σ β τ α} {f : α → Job σ β τ γ} {Q : Post σ (Except Fault γ)}
    (h : x.Yields s m hs fun r m' hs' => match r with
      | .ok a => (f a).Yields s m' hs' Q
      | .error e => Q (.error e) m' hs') :
    (x >>= f).Yields s m hs Q := fun k => by
  obtain ⟨r, m₁, hs₁, h₁, e₁⟩ := h fun r => ExceptT.bindCont f r s k
  cases r with
  | ok a =>
    obtain ⟨b, m₂, hs₂, h₂, e₂⟩ := h₁ k
    exact ⟨b, m₂, hs₂, h₂, e₁.trans e₂⟩
  | error e => exact ⟨_, m₁, hs₁, h₁, e₁⟩

theorem yields_attempt {x : Job σ β τ α} (h : x.Yields s m hs Q) : x.attempt.Yields s m hs Q := h

/-- The check for cancellation fails with the cancellation fault exactly on a cancelled run. -/
theorem yields_checkCancelled {Q : Post σ (Except Fault Unit)}
    (h : Q (if m.cancelled then .error .cancelled else .ok ()) m hs) :
    (checkCancelled : Job σ β τ Unit).Yields s m hs Q := by
  unfold checkCancelled
  apply Yields.bind
  apply yields_lift
  apply Exec.yields_isCancelled
  cases hc : m.cancelled with
  | true => exact yields_throw (by simpa [hc] using h)
  | false => exact yields_pure (by simpa [hc] using h)

/-- A log event followed by a job: the job goes on with the event in the journal. -/
theorem Yields.say_bind {e : Event} {f : Unit → Job σ β τ α}
    (h : (f ()).Yields s { m with journal := m.journal.push (s, e) } hs Q) :
    (lift (Exec.say e) >>= f).Yields s m hs Q :=
  Yields.bind (yields_lift (Exec.yields_say h))

end Job

end Rollout
