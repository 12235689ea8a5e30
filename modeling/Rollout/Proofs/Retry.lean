import Mathlib
import Rollout.Retry.Idempotent
import Rollout.Proofs.Scenario
/-!
# Retries of an idempotent call, attempt by attempt

The call answers from a script: its `n`-th answer (from one) is `o n`, and the world records the
time of each call. Without jitter, attempt `j` falls due at `attemptTime policy j`, the sum of
the delays after the attempts before it. An attempt ends the retries (`verdict`) when its answer
is a value, a fault that is not operational, or an operational fault after which the policy
allows no retry, or when the run is cancelled before the next attempt falls due; a
cancellation at the very instant the next attempt falls due comes too late. The first attempt
with a verdict gives the answer of the retries.

* `retryIdempotent_first_verdict`: **run alone, the retries call at `attemptTime policy j` for
  every attempt `j` up to the first with a verdict, and answer that verdict; the machine,
  whenever it answers, answers the same.**
-/

namespace Rollout

namespace Retry

variable {β τ α : Type}

/-! ### The attempts the retries make -/

/-- The time attempt `j` (from one) falls due, in milliseconds after the first: the delays
after the attempts before it, summed. -/
def attemptTime (policy : RetryPolicy) (j : Nat) : Nat :=
  ∑ l ∈ Finset.Ico 1 j, policy.cappedBackoff l

/-- The times the first `j` attempts fall due. -/
def attemptTimes (policy : RetryPolicy) (j : Nat) : List Nat :=
  (List.range j).map fun i => attemptTime policy (i + 1)

/-- Whether attempt `j` uses up the attempts the policy allows: at least one, and no bound when
the policy sets none. -/
def exhausted (policy : RetryPolicy) (j : Nat) : Bool :=
  match policy.maxAttempts with
  | none => false
  | some n => decide (max n 1 ≤ j)

/-- How attempt `j` ends the retries, if it does, when its call answers `o j` and `cancelled t`
tells whether the run is cancelled before time `t`. -/
def verdict (policy : RetryPolicy) (o : Nat → Except Fault α) (cancelled : Nat → Bool)
    (j : Nat) : Option (Except Fault α) :=
  match o j with
  | .ok v => some (.ok v)
  | .error e =>
    if e.kind != .operational || exhausted policy j then some (.error e)
    else if cancelled (attemptTime policy (j + 1)) then some (.error .cancelled)
    else none

/-- From the first attempt on, the policy allows a retry exactly when the attempts are not used
up. -/
theorem allowsRetry_eq (policy : RetryPolicy) {j : Nat} (hj : 1 ≤ j) :
    policy.allowsRetry j = !exhausted policy j := by
  unfold RetryPolicy.allowsRetry exhausted
  cases policy.maxAttempts with
  | none => rfl
  | some n =>
    show decide (j < n) = !decide (max n 1 ≤ j)
    by_cases h : j < n
    · simp [h]
    · simp [h]; omega

/-- The attempt that uses up the attempts always has a verdict. -/
theorem verdict_isSome_of_exhausted (policy : RetryPolicy) (o : Nat → Except Fault α)
    (cancelled : Nat → Bool) {j : Nat} (h : exhausted policy j = true) :
    (verdict policy o cancelled j).isSome := by
  unfold verdict
  split
  · rfl
  · simp [h]

theorem attemptTime_one (policy : RetryPolicy) : attemptTime policy 1 = 0 := by
  simp [attemptTime]

theorem attemptTime_succ (policy : RetryPolicy) {j : Nat} (hj : 1 ≤ j) :
    attemptTime policy (j + 1) = attemptTime policy j + policy.cappedBackoff j :=
  Finset.sum_Ico_succ_top hj _

theorem attemptTimes_succ (policy : RetryPolicy) (j : Nat) :
    attemptTimes policy (j + 1) = attemptTimes policy j ++ [attemptTime policy (j + 1)] := by
  simp [attemptTimes, List.range_succ]

@[simp] theorem length_attemptTimes (policy : RetryPolicy) (j : Nat) :
    (attemptTimes policy j).length = j := by
  simp [attemptTimes]

/-! ### One attempt -/

/-- The retries before attempt `j`: the calls so far made at the times they fell due, the clock
at the time attempt `j` falls due, the run as cancelled as at the start, and the cancellation
from outside, if any, not yet past. -/
structure Before (policy : RetryPolicy) (c₀ : Bool) (c : Option Nat) (j : Nat)
    (m : Machine (List Nat)) : Prop where
  one_le : 1 ≤ j
  world : m.world = attemptTimes policy (j - 1)
  now : m.now = attemptTime policy j
  cancelled : m.cancelled = c₀
  pending : ∀ x, c = some x → m.now ≤ x

section Attempt

variable {policy : RetryPolicy} {operation : String} {o : Nat → Except Fault α} {c₀ : Bool}
  {c : Option Nat} {s : Scope} {j : Nat} {m : Machine (List Nat)}
  {Q : Post (List Nat) (Except Fault α)}

/-- The call of attempt `j` answers `o j` and is recorded at the time the attempt falls due. -/
theorem Before.call (hm : Before policy c₀ c j m) :
    m.world.length + 1 = j ∧ m.world ++ [m.now] = attemptTimes policy j := by
  have hj := hm.one_le
  constructor
  · rw [hm.world, length_attemptTimes]
    omega
  · rw [hm.world, hm.now]
    obtain ⟨i, rfl⟩ : ∃ i, j = i + 1 := ⟨j - 1, by omega⟩
    simp [attemptTimes_succ]

/-- **One attempt**: it ends the retries with its verdict, its call recorded, or it leads to the
retries before the next attempt, with the fault it retries. -/
theorem attempt_yields (hj : policy.useJitter = false) (left : Nat) (last : Option Fault)
    (hm : Before policy c₀ c j m)
    (hend : ∀ r, verdict policy o (cancelledBefore c₀ c) j = some r →
      ∀ m' hs', m'.world = attemptTimes policy j → Q r m' hs')
    (hnext : verdict policy o (cancelledBefore c₀ c) j = none → ∀ e, o j = .error e →
      ∀ m', Before policy c₀ c (j + 1) m' →
        (attempts policy operation (scripted o) left (j + 1) (some e) : Job _ β τ α).Yields
          s m' (cancelAt c) Q) :
    (attempts policy operation (scripted o) (left + 1) j last : Job _ β τ α).Yields
      s m (cancelAt c) Q := by
  obtain ⟨hlen, hcall⟩ := hm.call
  -- the tests of the code against those of the verdict
  have hex : exhausted policy j = !policy.allowsRetry j := by
    rw [allowsRetry_eq policy hm.one_le, Bool.not_not]
  have hkind : ∀ e : Fault, (e.kind != .operational) = !e.isRetryable := fun _ => rfl
  rw [attempts.eq_2]
  apply Job.Yields.bind
  apply Job.yields_lift
  apply Job.yields_attempt
  refine scripted_yields.mono fun r₁ m₁ hs₁ ⟨hr₁, hm₁, hs₁⟩ => ?_
  subst hm₁ hs₁ hr₁
  rw [hlen]
  dsimp only
  cases ho : o j with
  | ok v =>
    -- a value ends the retries, after a note when it recovers from a fault
    have hv : verdict policy o (cancelledBefore c₀ c) j = some (.ok v) := by simp [verdict, ho]
    cases last with
    | none => exact Job.yields_pure (hend _ hv _ _ hcall)
    | some f => exact Job.Yields.say_bind (Job.yields_pure (hend _ hv _ _ hcall))
  | error e =>
    by_cases hre : e.isRetryable = true
    · by_cases hal : policy.allowsRetry j = true
      · -- the fault is retried: a word is drawn, a warning written, and the delay slept
        simp only [hre, hal, Bool.not_true, Bool.false_eq_true, if_false]
        apply Job.Yields.bind
        apply Job.yields_lift
        apply Exec.yields_draw
        apply Job.Yields.say_bind
        apply Job.Yields.bind
        refine (sleepFor_yields ?_).mono fun r₂ m₂ hs₂ ⟨b, hw, hr₂⟩ => ?_
        · simpa using hm.pending
        -- without jitter the delay does not depend on the word drawn
        have hdue : ∀ w, m.now + policy.backoff j w = attemptTime policy (j + 1) := fun w => by
          rw [hm.now, attemptTime_succ policy hm.one_le]
          simp [RetryPolicy.backoff, hj]
        have hb := hw.cancelled_eq
        have hworld := hw.world_eq
        simp only [Machine.draw_cancelled, Machine.draw_now, hm.cancelled, hdue] at hb hw
        simp only [Machine.draw_world] at hworld
        subst hr₂
        cases b with
        | true =>
          have hv : verdict policy o (cancelledBefore c₀ c) j = some (.error .cancelled) := by
            simp [verdict, ho, hkind, hex, hre, hal, ← hb]
          exact hend _ hv _ _ (hworld.trans hcall)
        | false =>
          cases hw with
          | wake hc hx =>
            -- the sleep ended when the next attempt falls due
            have hle : m.now ≤ attemptTime policy (j + 1) := by
              have := hdue 0
              omega
            have hv : verdict policy o (cancelledBefore c₀ c) j = none := by
              simp [verdict, ho, hkind, hex, hre, hal, ← hb]
            refine hnext hv e ho _ ⟨by omega, ?_, ?_, ?_, ?_⟩
            · simpa using hcall
            · simpa using hle
            · simp
            · intro x hcx
              have := hx x hcx
              simp only [Nat.max_eq_left hle]
              exact this
      · -- no retry is allowed: a warning, and the fault
        simp only [hre, hal, Bool.not_true, Bool.not_false, Bool.false_eq_true, if_true, if_false]
        have hv : verdict policy o (cancelledBefore c₀ c) j = some (.error e) := by
          simp [verdict, ho, hkind, hex, hal]
        exact Job.Yields.say_bind (Job.Yields.bind (Job.yields_throw (hend _ hv _ _ hcall)))
    · -- a fault that is not operational ends the retries as it is
      have hre' : e.isRetryable = false := by simpa using hre
      simp only [hre', Bool.not_false, if_true]
      have hv : verdict policy o (cancelledBefore c₀ c) j = some (.error e) := by
        simp [verdict, ho, hkind, hre']
      exact Job.Yields.bind (Job.yields_throw (hend _ hv _ _ hcall))

end Attempt

/-! ### The whole retries -/

section Loop

variable {policy : RetryPolicy} {operation : String} {o : Nat → Except Fault α} {c₀ : Bool}
  {c : Option Nat} {s : Scope}

/-- Before attempt `j`, with attempts left for every attempt up to the first with a verdict, the
retries answer that verdict, every call recorded at the time its attempt falls due. -/
theorem attempts_yields (hj : policy.useJitter = false) {J : Nat} {r : Except Fault α}
    (hgo : ∀ i, 1 ≤ i → i < J → verdict policy o (cancelledBefore c₀ c) i = none)
    (hstop : verdict policy o (cancelledBefore c₀ c) J = some r) :
    ∀ left j last (m : Machine (List Nat)), j ≤ J → J < j + left → Before policy c₀ c j m →
      (attempts policy operation (scripted o) left j last : Job _ β τ α).Yields s m (cancelAt c)
        fun r' m' _ => r' = r ∧ m'.world = attemptTimes policy J
  | 0, _, _, _, hjJ, hJ, _ => absurd hJ (by omega)
  | left + 1, j, last, m, hjJ, hJ, hm => by
    refine attempt_yields hj left last hm (fun r' hv m' hs' hw => ?_) (fun hv e _ m' hm' => ?_)
    · -- attempt `j` has a verdict, so it is the first: `j = J`
      have hjJ' : j = J := by
        by_contra hne
        rw [hgo j hm.one_le (by omega)] at hv
        cases hv
      subst hjJ'
      rw [hstop] at hv
      exact ⟨(Option.some.inj hv).symm, hw⟩
    · -- attempt `j` has none, so it comes before `J`
      have hjJ' : j ≠ J := by
        rintro rfl
        rw [hstop] at hv
        cases hv
      exact attempts_yields hj hgo hstop left (j + 1) (some e) m' (by omega) (by omega) hm'

end Loop

/-- The first attempt with a verdict comes no later than the last the policy allows. -/
theorem first_verdict_le {policy : RetryPolicy} {o : Nat → Except Fault α} {cut : Nat → Bool}
    {J n : Nat} (hgo : ∀ j, 1 ≤ j → j < J → verdict policy o cut j = none)
    (hn : policy.maxAttempts = some n) : J ≤ max n 1 := by
  by_contra hlt
  have hnone := hgo (max n 1) (Nat.le_max_right n 1) (by omega)
  have hsome := verdict_isSome_of_exhausted policy o cut (j := max n 1) (by simp [exhausted, hn])
  rw [hnone] at hsome
  cases hsome

/-- **The retries of a scripted call, without jitter.** Run alone from time zero, on a run
cancelled from the start when `c₀` holds and from outside at `c` if at all, the retries call at
`attemptTime policy j` for every attempt `j` up to the first whose verdict ends them, no more
often than the policy allows, and answer that verdict; whenever the machine answers, it gives
the same answer on the same machine. The definition bounds the attempts by `attemptBound`. -/
theorem retryIdempotent_first_verdict (policy : RetryPolicy) (hj : policy.useJitter = false)
    (operation : String) (o : Nat → Except Fault α) (c₀ : Bool) (c : Option Nat)
    (m : Machine (List Nat)) {J : Nat} {r : Except Fault α} (h1 : 1 ≤ J)
    (hbound : J ≤ attemptBound)
    (hgo : ∀ j, 1 ≤ j → j < J → verdict policy o (cancelledBefore c₀ c) j = none)
    (hstop : verdict policy o (cancelledBefore c₀ c) J = some r) :
    let p : Program (List Nat) β (Except Fault α) :=
      Exec.program (retryIdempotent policy operation (scripted o)).attempt
    let m₀ : Machine (List Nat) := { m with world := [], now := 0, cancelled := c₀ }
    ∃ m', p.alone m₀ (cancelAt c) = (m', some r) ∧ m'.world = attemptTimes policy J ∧
      (∀ n, policy.maxAttempts = some n → m'.world.length ≤ max n 1) ∧
      ∀ m'' r', p.run m₀ (cancelAt c) = (m'', some r') → m'' = m' ∧ r' = r := by
  intro p m₀
  have hm : Before policy c₀ c 1 m₀ :=
    ⟨le_rfl, by simp [m₀, attemptTimes], by simp [m₀, attemptTime_one], rfl,
      fun _ _ => Nat.zero_le _⟩
  have hy : (attempts policy operation (scripted o) attemptBound 1 none :
      Job _ β (Except Fault α) α).Yields [] m₀ (cancelAt c)
        fun r' m' _ => r' = r ∧ m'.world = attemptTimes policy J :=
    attempts_yields hj hgo hstop attemptBound 1 none m₀ h1 (by omega) hm
  obtain ⟨a, m', hs', ⟨rfl, hw⟩, he⟩ := (Job.yields_attempt hy).program
  refine ⟨m', he, hw, fun n hn => ?_, fun m'' r' hrun => ?_⟩
  · rw [hw, length_attemptTimes]
    exact first_verdict_le hgo hn
  -- a single cancellation needs no scheduling
  have hsched : Happening.schedule (cancelAt c : List (Nat × Happening (List Nat))) = cancelAt c := by
    cases c <;> simp [Happening.schedule, cancelAt]
  have hsame := Program.run_eq_alone (by rw [hsched]; exact he) hrun
  simp only [Prod.mk.injEq, Option.some.injEq] at hsame
  exact hsame

/-- Three attempts allowed, 100 ms doubling: a run cancelled at 250 ms is seen during the sleep
before the third attempt, due at 300 ms, after calls at 0 and 100 ms. -/
theorem retryIdempotent_cancelled_in_sleep :
    ∃ m', (Exec.program (retryIdempotent ⟨some 3, 100, 1000, false⟩ "call"
        (scripted fun _ => (.error (.operational "call" "down") : Except Fault Nat))).attempt :
          Program (List Nat) Unit (Except Fault Nat)).alone
        { world := [] } (cancelAt (some 250)) = (m', some (.error .cancelled)) ∧
      m'.world = [0, 100] := by
  have hstop : verdict ⟨some 3, 100, 1000, false⟩
      (fun _ => (.error (.operational "call" "down") : Except Fault Nat))
      (cancelledBefore false (some 250)) 2 = some (.error .cancelled) := by
    decide
  have hgo : ∀ j, 1 ≤ j → j < 2 → verdict ⟨some 3, 100, 1000, false⟩
      (fun _ => (.error (.operational "call" "down") : Except Fault Nat))
      (cancelledBefore false (some 250)) j = none := by
    intro j h1 h2
    obtain rfl : j = 1 := by omega
    decide
  obtain ⟨m', he, hw, -, -⟩ := retryIdempotent_first_verdict (β := Unit)
    ⟨some 3, 100, 1000, false⟩ rfl "call" _ false (some 250) { world := [] } (by decide)
    (by decide) hgo hstop
  exact ⟨m', he, hw.trans (by decide)⟩

end Retry

end Rollout
