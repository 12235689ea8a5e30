import Mathlib
import Rollout.Poll
import Rollout.Proofs.Scenario
/-!
# Waiting for a scripted condition, evaluation by evaluation

The condition answers from a script: its `j`-th evaluation (from one) answers `o j`, and the
world records the time of each evaluation. A wait begun at time zero evaluates at
`(j - 1) * interval` for `j = 1, 2, ...`, and writes a notice at every whole status period, a
notice due at the instant of an evaluation before it. Evaluation `j` ends the wait (`verdict`)
when the run is cancelled before it is due (cancelled, with the evaluations and notices made
by the cancellation), when the condition fails, holds, or in a dry run does not hold. The first
evaluation with a verdict gives the answer of the wait. The counts it reports are held at
`countMax` (`capped`): a wait that makes more evaluations, or writes more notices, than the
largest 32-bit word reports that word.

* `pause_yields`: a sleep writes every notice that falls due in it, up to the cancellation if
  that comes first;
* `pollUntil_first_verdict`: **run alone, the wait evaluates at `(j - 1) * interval` for every
  evaluation `j` up to the first with a verdict, and answers that verdict; the machine,
  whenever it answers, answers the same.**
* `pollUntil_caps_evaluations`: a condition that first holds at evaluation `2 ^ 32` is reported
  after `2 ^ 32 - 1` evaluations.
-/

namespace Rollout

namespace Poll

variable {σ β τ : Type}

/-- A count as a wait reports it, held at `countMax`. -/
def capped (n : Nat) : Nat := min n countMax

@[simp] theorem countUp_capped (n : Nat) : countUp (capped n) = capped (n + 1) := by
  unfold countUp capped
  omega

/-- The notices a wait begun at time zero has written by time `t`: one for each whole status
period, none without notices. -/
def noticesBy (config : PollConfig) (t : Nat) : Nat :=
  match config.statusInterval with
  | none => 0
  | some p => t / p

/-- When the first notice after time `t` falls due, for a wait begun at time zero. -/
def nextNotice (config : PollConfig) (t : Nat) : Option Nat :=
  config.statusInterval.map fun p => (t / p + 1) * p

/-- A time at or after `a` and before the first notice after it holds no more notices. -/
theorem div_eq_of_lt_next {p a x : Nat} (hp : 0 < p) (hax : a ≤ x) (hx : x < (a / p + 1) * p) :
    x / p = a / p := by
  have hle : a / p ≤ x / p := Nat.div_le_div_right hax
  have hlt : x / p < a / p + 1 := (Nat.div_lt_iff_lt_mul hp).2 hx
  omega

/-- How a sleep until `w`, begun with the notices up to date, ends on a run to be cancelled at
`c`: cut short at the cancellation if it falls before `w`, with the notices due by then, and
otherwise at `w`, with the notices due by `w` and the next one to come. -/
inductive SleepEnd (config : PollConfig) (c : Option Nat) (w : Nat) (t : Tally) (m : Machine σ) :
    Post σ Slept
  | cut {x : Nat} {m' : Machine σ} {hs' : List (Nat × Happening σ)} (hx : c = some x) (hxw : x < w)
      (hw : m'.world = m.world) (hn : m'.now = x) :
      SleepEnd config c w t m (.cancelled { t with notices := capped (noticesBy config x) }) m' hs'
  | woke {m' : Machine σ} (hx : ∀ x, c = some x → w ≤ x) (hw : m'.world = m.world) (hn : m'.now = w)
      (hc : m'.cancelled = false) :
      SleepEnd config c w t m
        (.woke { t with notices := capped (noticesBy config w) } (nextNotice config w)) m' (cancelAt c)

/-- How a sleep ends does not depend on the notices counted before, nor on the journal. -/
theorem SleepEnd.rebase {config : PollConfig} {c : Option Nat} {w k : Nat} {t : Tally}
    {m m₁ m' : Machine σ} {r : Slept} {hs' : List (Nat × Happening σ)}
    (h : SleepEnd config c w { t with notices := k } m₁ r m' hs') (hw : m₁.world = m.world) :
    SleepEnd config c w t m r m' hs' := by
  cases h with
  | cut hx hxw hw' hn => exact .cut hx hxw (hw'.trans hw) hn
  | woke hx hw' hn hc => exact .woke hx (hw'.trans hw) hn hc

section Sleep

variable {config : PollConfig} {c : Option Nat} {s : Scope} {w : Nat}

/-- **A sleep until `w`** writes every notice that falls due by `w`, or by the cancellation if it
falls before `w`, given one round more than the milliseconds it lasts: each round but the last
writes a notice, and notices are at least a millisecond apart. -/
theorem pause_yields (hp : ∀ p, config.statusInterval = some p → 0 < p) :
    ∀ fuel (t : Tally) due (m : Machine σ), m.now ≤ w → w - m.now < fuel → m.cancelled = false →
      (∀ x, c = some x → m.now ≤ x) → t.notices = capped (noticesBy config m.now) →
      due = nextNotice config m.now →
      (pause config w fuel t due : Exec σ β τ Slept).Yields s m (cancelAt c)
        (SleepEnd config c w t m)
  | 0, _, _, _, _, hf, _, _, _, _ => absurd hf (Nat.not_lt_zero _)
  | fuel + 1, t, _, m, hnw, hf, hc, hx, ht, rfl => by
    cases hsi : config.statusInterval with
    | none =>
      -- without notices the sleep is one wait
      have hnext : nextNotice config m.now = none := by simp [nextNotice, hsi]
      have hnone : ∀ y, capped (noticesBy config y) = t.notices := fun y => by
        simp [noticesBy, hsi, ht]
      rw [hnext, pause.eq_3]
      apply Exec.Yields.bind
      refine (yields_waitUntil_cancelAt hx).mono fun b m₁ hs₁ hend => ?_
      cases hend with
      | before hc' => simp [hc] at hc'
      | @cut x _ hcx hxt =>
        apply Exec.yields_pure
        have h : SleepEnd config c w t m
            (.cancelled { t with notices := capped (noticesBy config x) })
            ({ m with now := x }.cancel []) [] :=
          .cut hcx hxt (by simp) (by simp)
        rwa [hnone] at h
      | wake _ hx' =>
        apply Exec.yields_pure
        have h : SleepEnd config c w t m
            (.woke { t with notices := capped (noticesBy config w) } (nextNotice config w))
            { m with now := max w m.now } (cancelAt c) :=
          .woke hx' rfl (by simp [Nat.max_eq_left hnw]) hc
        rwa [hnone, show nextNotice config w = none by simp [nextNotice, hsi]] at h
    | some p =>
      have hp0 := hp p hsi
      -- the next notice falls due strictly after now
      obtain ⟨n, hn⟩ : ∃ n, n = (m.now / p + 1) * p := ⟨_, rfl⟩
      have hnow_n : m.now < n := by
        rw [hn, Nat.add_mul, Nat.one_mul]
        have := Nat.lt_div_mul_add (a := m.now) hp0
        omega
      have hnext : nextNotice config m.now = some n := by simp [nextNotice, hsi, hn]
      rw [hnext, pause.eq_2]
      apply Exec.Yields.bind
      refine (yields_waitUntil_cancelAt hx).mono fun b m₁ hs₁ hend => ?_
      cases hend with
      | before hc' => simp [hc] at hc'
      | @cut x _ hcx hxt =>
        -- cut short before the next notice: no notice written
        apply Exec.yields_pure
        have hsame : capped (noticesBy config x) = t.notices := by
          simp only [noticesBy, hsi, ht]
          rw [div_eq_of_lt_next hp0 (hx x hcx) (by omega)]
        have h : SleepEnd config c w t m
            (.cancelled { t with notices := capped (noticesBy config x) })
            ({ m with now := x }.cancel []) [] :=
          .cut hcx (by omega) (by simp) (by simp)
        rwa [hsame] at h
      | wake _ hx' =>
        simp only [hsi, Bool.false_eq_true, if_false]
        by_cases hnw' : n ≤ w
        · -- a notice falls due first: it is written, and the sleep goes on from it
          have hmin : min n w = n := Nat.min_eq_left hnw'
          rw [if_pos (by omega)]
          apply Exec.Yields.bind
          apply Exec.yields_now
          apply Exec.Yields.bind
          apply Exec.yields_say
          have hdiv : n / p = m.now / p + 1 := by rw [hn, Nat.mul_div_cancel _ hp0]
          refine (pause_yields hp fuel _ _ _ ?_ ?_ ?_ ?_ ?_ ?_).mono fun r m' hs' h => h.rebase ?_
          · simpa [hmin, Nat.max_eq_left (Nat.le_of_lt hnow_n)] using hnw'
          · simp only [hmin, Nat.max_eq_left (Nat.le_of_lt hnow_n)]
            omega
          · simpa using hc
          · intro x hcx
            simpa [hmin, Nat.max_eq_left (Nat.le_of_lt hnow_n)] using hx' x hcx
          · simp [hmin, Nat.max_eq_left (Nat.le_of_lt hnow_n), noticesBy, hsi, hdiv, ht]
          · have hnow₂ : max (min n w) m.now = n := by omega
            simp only [hnow₂, nextNotice, hsi, Option.map_some, hdiv, Option.some.injEq]
            rw [hn, Nat.add_mul (m.now / p + 1) 1 p, Nat.one_mul]
          · simp
        · -- the sleep reaches its end before the next notice
          have hmin : min n w = w := Nat.min_eq_right (by omega)
          rw [if_neg (by omega)]
          apply Exec.yields_pure
          have hdiv : w / p = m.now / p := div_eq_of_lt_next hp0 hnw (by omega)
          have hsame : capped (noticesBy config w) = t.notices := by
            simp only [noticesBy, hsi, ht, hdiv]
          have hnext' : nextNotice config w = some n := by
            simp only [nextNotice, hsi, Option.map_some, hn, hdiv]
          have h : SleepEnd config c w t m
              (.woke { t with notices := capped (noticesBy config w) } (nextNotice config w))
              { m with now := max (min n w) m.now } (cancelAt c) :=
            .woke (fun x hcx => by simpa [hmin] using hx' x hcx) rfl
              (by simp [hmin, Nat.max_eq_left hnw]) hc
          rwa [hsame, hnext'] at h

end Sleep

/-! ### The evaluations a wait makes -/

/-- The times of the first `n` evaluations of a wait begun at time zero. -/
def evaluationTimes (config : PollConfig) (n : Nat) : List Nat :=
  (List.range n).map fun k => k * config.interval

/-- How evaluation `j` (from one), due at `(j - 1) * interval`, ends a wait begun at time zero,
if it does: a run cancelled before it is due ends the wait cancelled, with the evaluations made
and the notices due by the cancellation; otherwise a fault of the condition ends the wait with
that fault, and a condition that holds, or in a dry run does not, ends it satisfied. -/
def verdict (config : PollConfig) (dryRun : Bool) (o : Nat → Except Fault Bool) (c₀ : Bool)
    (c : Option Nat) (j : Nat) : Option (Except Fault PollResult) :=
  let due := (j - 1) * config.interval
  if cancelledBefore c₀ c due then
    let t := if c₀ then 0 else c.getD 0
    some (.ok ⟨false, false, true, capped (j - 1), capped (noticesBy config t), t⟩)
  else
    match o j with
    | .error e => some (.error e)
    | .ok true => some (.ok ⟨true, false, false, capped j, capped (noticesBy config due), due⟩)
    | .ok false =>
      if dryRun then some (.ok ⟨true, true, false, capped j, capped (noticesBy config due), due⟩)
      else none

theorem evaluationTimes_succ (config : PollConfig) (n : Nat) :
    evaluationTimes config (n + 1) = evaluationTimes config n ++ [n * config.interval] := by
  simp [evaluationTimes, List.range_succ]

@[simp] theorem length_evaluationTimes (config : PollConfig) (n : Nat) :
    (evaluationTimes config n).length = n := by
  simp [evaluationTimes]

theorem finish_yields {t : Tally} {s : Scope} {m : Machine σ} {hs : List (Nat × Happening σ)}
    {sat sim can : Bool} {Q : Post σ PollResult}
    (h : Q ⟨sat, sim, can, t.evaluations, t.notices, m.now - t.started⟩ m hs) :
    (t.finish sat sim can : Exec σ β τ PollResult).Yields s m hs Q :=
  Exec.Yields.bind (Exec.yields_now (Exec.yields_pure h))

/-- The wait before evaluation `j`: the evaluations so far made at the times they fell due, the
clock at the time evaluation `j` falls due, the notices up to date, the run as cancelled as at
the start (which only the first evaluation can see), and the cancellation from outside, if any,
not yet past. -/
structure Before (config : PollConfig) (c₀ : Bool) (c : Option Nat) (j : Nat)
    (m : Machine (List Nat)) (t : Tally) (due : Option Nat) : Prop where
  one_le : 1 ≤ j
  first : c₀ = true → j = 1
  world : m.world = evaluationTimes config (j - 1)
  now : m.now = (j - 1) * config.interval
  cancelled : m.cancelled = c₀
  pending : ∀ x, c = some x → m.now ≤ x
  started : t.started = 0
  evaluations : t.evaluations = capped (j - 1)
  notices : t.notices = capped (noticesBy config m.now)
  due : due = nextNotice config m.now

section Round

variable {config : PollConfig} {dryRun : Bool} {o : Nat → Except Fault Bool} {c₀ : Bool}
  {c : Option Nat} {s : Scope} {j : Nat} {m : Machine (List Nat)} {t : Tally} {due : Option Nat}
  {Q : Post (List Nat) (Except Fault PollResult)}

/-- The evaluation of round `j` answers `o j` and is recorded at the time it falls due. -/
theorem Before.evaluate (hm : Before config c₀ c j m t due) :
    m.world.length + 1 = j ∧ m.world ++ [m.now] = evaluationTimes config j := by
  have hj := hm.one_le
  constructor
  · rw [hm.world, length_evaluationTimes]
    omega
  · rw [hm.world, hm.now]
    obtain ⟨i, rfl⟩ : ∃ i, j = i + 1 := ⟨j - 1, by omega⟩
    simp [evaluationTimes_succ]

/-- **One round**: evaluation `j` ends the wait with its verdict, the evaluations made recorded;
or the sleep after it is cut short, which is the verdict of evaluation `j + 1`; or it leads to
the wait before evaluation `j + 1`. -/
theorem round_yields (hp : ∀ p, config.statusInterval = some p → 0 < p) (n : Nat)
    (hm : Before config c₀ c j m t due)
    (hend : ∀ r, verdict config dryRun o c₀ c j = some r → ∀ m' hs',
      m'.world = evaluationTimes config
        (if cancelledBefore c₀ c ((j - 1) * config.interval) then j - 1 else j) → Q r m' hs')
    (hcut : verdict config dryRun o c₀ c j = none → ∀ r,
      verdict config dryRun o c₀ c (j + 1) = some r →
      cancelledBefore c₀ c (j * config.interval) = true →
      ∀ m' hs', m'.world = evaluationTimes config j → Q r m' hs')
    (hnext : verdict config dryRun o c₀ c j = none → ∀ m' t' due',
      Before config c₀ c (j + 1) m' t' due' →
      (rounds (scripted o) config dryRun n t' due' : Job _ β τ PollResult).Yields s m'
        (cancelAt c) Q) :
    (rounds (scripted o) config dryRun (n + 1) t due : Job _ β τ PollResult).Yields s m
      (cancelAt c) Q := by
  rw [rounds.eq_2]
  apply Job.Yields.bind
  apply Job.yields_lift
  apply Exec.yields_isCancelled
  rw [hm.cancelled]
  cases hc₀ : c₀ with
  | true =>
    -- cancelled from the start: the first evaluation is not made
    have hj := hm.first hc₀
    subst hj
    apply Job.Yields.say_bind
    apply Job.yields_lift
    apply finish_yields
    refine hend _ ?_ _ _ ?_
    · simp [verdict, cancelledBefore, hc₀, hm.evaluations, hm.notices, hm.now, hm.started]
    · simpa [cancelledBefore, hc₀] using hm.world
  | false =>
    -- the run is not cancelled: evaluation `j` is made at its time
    have hnotcut : cancelledBefore c₀ c ((j - 1) * config.interval) = false := by
      simp only [cancelledBefore, hc₀, Bool.false_or, Option.any_eq_false]
      intro x hx
      simpa [hm.now] using hm.pending x hx
    obtain ⟨hlen, hcall⟩ := hm.evaluate
    simp only [Bool.false_eq_true, if_false]
    apply Job.Yields.bind
    refine scripted_yields.mono fun r₁ m₁ hs₁ h₁ => ?_
    obtain ⟨hr₁, hm₁, hs₁'⟩ := h₁
    subst hm₁ hs₁' hr₁
    rw [hlen]
    have hworld : ∀ m' : Machine (List Nat), m'.world = m.world ++ [m.now] →
        m'.world = evaluationTimes config
          (if cancelledBefore c₀ c ((j - 1) * config.interval) then j - 1 else j) := by
      intro m' hw'
      rw [hw', hcall, hnotcut]
      rfl
    cases ho : o j with
    | error e =>
      exact hend _ (by simp [verdict, hnotcut, ho]) _ _ (hworld _ rfl)
    | ok b =>
      have hj := hm.one_le
      have hcount : countUp t.evaluations = capped j := by
        rw [hm.evaluations, countUp_capped]
        congr 1
        omega
      have hnext_due : m.now + config.interval = j * config.interval := by
        rw [hm.now]
        obtain ⟨k, rfl⟩ : ∃ k, j = k + 1 := ⟨j - 1, by omega⟩
        simp [Nat.add_mul]
      dsimp only
      cases b with
      | true =>
        -- the condition holds: the wait ends satisfied
        simp only [if_true]
        apply Job.Yields.say_bind
        apply Job.yields_lift
        apply finish_yields
        refine hend _ ?_ _ _ (hworld _ rfl)
        simp [verdict, hnotcut, ho, hcount, hm.notices, hm.now, hm.started]
      | false =>
        simp only [Bool.false_eq_true, if_false]
        cases dryRun with
        | true =>
          -- a dry run takes the condition to hold
          simp only [if_true]
          apply Job.Yields.say_bind
          apply Job.yields_lift
          apply finish_yields
          refine hend _ ?_ _ _ (hworld _ rfl)
          simp [verdict, hnotcut, ho, hcount, hm.notices, hm.now, hm.started]
        | false =>
          -- the wait sleeps until the next evaluation falls due
          have hv : verdict config false o c₀ c j = none := by simp [verdict, hnotcut, ho]
          simp only [Bool.false_eq_true, if_false]
          apply Job.Yields.say_bind
          apply Job.Yields.bind
          apply Job.yields_lift
          apply Exec.yields_now
          apply Job.Yields.bind
          apply Job.yields_lift
          refine (pause_yields hp _ _ _ _ ?_ ?_ ?_ ?_ ?_ ?_).mono fun r m₂ hs₂ hsl => ?_
          · simp
          · simp
          · simpa [hm.cancelled] using hc₀
          · intro x hx
            simpa using hm.pending x hx
          · simpa using hm.notices
          · simpa using hm.due
          cases hsl with
          | @cut x _ _ hx hxw hw hn =>
            -- cut short: the verdict of the next evaluation
            simp only [hnext_due] at hxw
            apply Job.Yields.say_bind
            apply Job.yields_lift
            apply finish_yields
            refine hcut hv _ ?_ ?_ _ _ ?_
            · simp [verdict, cancelledBefore, hc₀, hx, hxw, hn, hcount, hm.started]
            · simp [cancelledBefore, hc₀, hx, hxw]
            · simpa [hcall] using hw
          | woke hx hw hn hc =>
            dsimp only
            simp only [hnext_due] at hx hn
            refine hnext hv _ _ _ ⟨by omega, by simp [hc₀], ?_, ?_, ?_, ?_, ?_, ?_, ?_, ?_⟩
            · simpa [hcall] using hw
            · simp [hn]
            · simpa [hc₀] using hc
            · intro x hcx
              simpa [hn] using hx x hcx
            · simpa using hm.started
            · simpa using hcount
            · simp [hn, hnext_due]
            · simp [hn, hnext_due]

end Round

/-! ### The whole wait -/

section Loop

variable {config : PollConfig} {dryRun : Bool} {o : Nat → Except Fault Bool} {c₀ : Bool}
  {c : Option Nat} {s : Scope}

/-- Before evaluation `j`, with rounds left for every evaluation up to the first with a verdict,
the wait answers that verdict, every evaluation made recorded at the time it fell due. -/
theorem rounds_yields (hp : ∀ p, config.statusInterval = some p → 0 < p) {J : Nat}
    {r : Except Fault PollResult}
    (hgo : ∀ i, 1 ≤ i → i < J → verdict config dryRun o c₀ c i = none)
    (hstop : verdict config dryRun o c₀ c J = some r) :
    ∀ n j (m : Machine (List Nat)) t due, j ≤ J → J < j + n → Before config c₀ c j m t due →
      (rounds (scripted o) config dryRun n t due : Job _ β τ PollResult).Yields s m (cancelAt c)
        fun r' m' _ => r' = r ∧ m'.world = evaluationTimes config
          (if cancelledBefore c₀ c ((J - 1) * config.interval) then J - 1 else J)
  | 0, _, _, _, _, _, hJ, _ => absurd hJ (by omega)
  | n + 1, j, m, t, due, hjJ, hJ, hm => by
    -- evaluation `j` has no verdict unless it is `J`
    have hnone : j ≠ J → verdict config dryRun o c₀ c j = none := fun hne =>
      hgo j hm.one_le (by omega)
    refine round_yields hp n hm (fun r' hv m' hs' hw => ?_) (fun hv r' hv' hcut m' hs' hw => ?_)
      (fun hv m' t' due' hm' => ?_)
    · -- evaluation `j` has a verdict, so it is the first: `j = J`
      obtain rfl : j = J := Decidable.byContradiction fun hne => by
        rw [hnone hne] at hv
        cases hv
      rw [hstop] at hv
      exact ⟨(Option.some.inj hv).symm, hw⟩
    · -- the sleep after evaluation `j` is cut short: that is the verdict of `j + 1 = J`
      have hjJ' : j ≠ J := by
        rintro rfl
        rw [hstop] at hv
        cases hv
      obtain rfl : j + 1 = J := Decidable.byContradiction fun hne => by
        rw [hgo (j + 1) (by omega) (by omega)] at hv'
        cases hv'
      rw [hstop] at hv'
      refine ⟨(Option.some.inj hv').symm, ?_⟩
      simpa [hcut] using hw
    · have hjJ' : j ≠ J := by
        rintro rfl
        rw [hstop] at hv
        cases hv
      exact rounds_yields hp hgo hstop n (j + 1) m' t' due' (by omega) (by omega) hm'

end Loop

/-- Run alone from time zero, the wait answers the verdict of the first evaluation with one, every
evaluation made recorded at the time it fell due. -/
theorem pollUntil_alone (config : PollConfig)
    (hp : ∀ p, config.statusInterval = some p → 0 < p) (dryRun : Bool)
    (o : Nat → Except Fault Bool) (c₀ : Bool) (c : Option Nat) (m : Machine (List Nat))
    {J : Nat} {r : Except Fault PollResult} (h1 : 1 ≤ J) (hbound : J ≤ roundBound)
    (hgo : ∀ j, 1 ≤ j → j < J → verdict config dryRun o c₀ c j = none)
    (hstop : verdict config dryRun o c₀ c J = some r) :
    ∃ m', (Exec.program (pollUntil (scripted o) config dryRun).attempt :
        Program (List Nat) β (Except Fault PollResult)).alone
        { m with world := [], now := 0, cancelled := c₀ } (cancelAt c) = (m', some r) ∧
      m'.world = evaluationTimes config
        (if cancelledBefore c₀ c ((J - 1) * config.interval) then J - 1 else J) := by
  let m₀ : Machine (List Nat) := { m with world := [], now := 0, cancelled := c₀ }
  -- the first notice falls due one status period after the start
  have hdue : config.statusInterval.map (m₀.now + ·) = nextNotice config m₀.now := by
    cases h : config.statusInterval <;> simp [m₀, nextNotice, h]
  have hm : Before config c₀ c 1 m₀ { started := m₀.now } (nextNotice config m₀.now) :=
    ⟨Nat.le_refl 1, fun _ => rfl, by simp [m₀, evaluationTimes], by simp [m₀], rfl,
      fun _ _ => Nat.zero_le _, rfl, rfl, by unfold capped noticesBy; split <;> simp [m₀], rfl⟩
  have hy : (pollUntil (scripted o) config dryRun :
      Job _ β (Except Fault PollResult) PollResult).Yields [] m₀
      (cancelAt c) fun r' m' _ => r' = r ∧ m'.world = evaluationTimes config
        (if cancelledBefore c₀ c ((J - 1) * config.interval) then J - 1 else J) := by
    apply Job.Yields.bind
    apply Job.yields_lift
    apply Exec.yields_now
    show (rounds _ _ _ _ _ (config.statusInterval.map (m₀.now + ·))).Yields _ _ _ _
    rw [hdue]
    exact rounds_yields hp hgo hstop roundBound 1 m₀ _ _ h1 (by omega) hm
  obtain ⟨a, m', hs', ⟨rfl, hw⟩, he⟩ := (Job.yields_attempt hy).program
  exact ⟨m', he, hw⟩

/-- **A wait for a scripted condition.** Run alone from time zero, on a run cancelled from the
start when `c₀` holds and from outside at `c` if at all, the wait evaluates at
`(j - 1) * interval` for every evaluation `j` before the first with a verdict, and that one too
unless the run is cancelled before it falls due, and answers that verdict, its counts held at
`countMax`; whenever the machine answers, it gives the same answer on the same machine. The
definition bounds the evaluations by `roundBound`. -/
theorem pollUntil_first_verdict (config : PollConfig)
    (hp : ∀ p, config.statusInterval = some p → 0 < p) (dryRun : Bool)
    (o : Nat → Except Fault Bool) (c₀ : Bool) (c : Option Nat) (m : Machine (List Nat))
    {J : Nat} {r : Except Fault PollResult} (h1 : 1 ≤ J) (hbound : J ≤ roundBound)
    (hgo : ∀ j, 1 ≤ j → j < J → verdict config dryRun o c₀ c j = none)
    (hstop : verdict config dryRun o c₀ c J = some r) :
    let p : Program (List Nat) β (Except Fault PollResult) :=
      Exec.program (pollUntil (scripted o) config dryRun).attempt
    let m₀ : Machine (List Nat) := { m with world := [], now := 0, cancelled := c₀ }
    ∃ m', p.alone m₀ (cancelAt c) = (m', some r) ∧
      m'.world = evaluationTimes config
        (if cancelledBefore c₀ c ((J - 1) * config.interval) then J - 1 else J) ∧
      ∀ m'' r', p.run m₀ (cancelAt c) = (m'', some r') → m'' = m' ∧ r' = r := by
  intro p m₀
  obtain ⟨m', he, hw⟩ := pollUntil_alone config hp dryRun o c₀ c m h1 hbound hgo hstop
  refine ⟨m', he, hw, fun m'' r' hrun => ?_⟩
  -- a single cancellation needs no scheduling
  have hsched : Happening.schedule (cancelAt c : List (Nat × Happening (List Nat))) = cancelAt c := by
    cases c <;> simp [Happening.schedule, cancelAt]
  have hsame := Program.run_eq_alone (by rw [hsched]; exact he) hrun
  simp only [Prod.mk.injEq, Option.some.injEq] at hsame
  exact hsame

/-- Evaluations every 10 s, notices every 3 s, and a run cancelled at 7 s: the wait ends in its
first sleep, after one evaluation, with the two notices written at 3 s and 6 s counted. -/
theorem pollUntil_counts_notices_in_cut_sleep :
    ∃ m', (Exec.program (pollUntil (scripted fun _ => .ok false)
        ({ interval := 10000, statusInterval := some 3000 } : PollConfig) false).attempt :
          Program (List Nat) Unit (Except Fault PollResult)).alone
        { world := [] } (cancelAt (some 7000)) =
        (m', some (.ok ⟨false, false, true, 1, 2, 7000⟩)) ∧ m'.world = [0] := by
  have hstop : verdict { interval := 10000, statusInterval := some 3000 } false
      (fun _ => .ok false) false (some 7000) 2 = some (.ok ⟨false, false, true, 1, 2, 7000⟩) := by
    rfl
  have hgo : ∀ j, 1 ≤ j → j < 2 → verdict { interval := 10000, statusInterval := some 3000 } false
      (fun _ => .ok false) false (some 7000) j = none := by
    intro j h1 h2
    obtain rfl : j = 1 := by omega
    rfl
  obtain ⟨m', he, hw, -⟩ := pollUntil_first_verdict (β := Unit)
    { interval := 10000, statusInterval := some 3000 } (by simp) false (fun _ => .ok false) false
    (some 7000) { world := [] } (by decide) (by decide) hgo hstop
  exact ⟨m', he, hw.trans (by decide)⟩

/-- A condition that first holds at evaluation `2 ^ 32`, evaluated every second: the wait ends
satisfied at `(2 ^ 32 - 1)` seconds, reporting `2 ^ 32 - 1` evaluations, not `2 ^ 32`: the count is
held at the largest 32-bit word. -/
theorem pollUntil_caps_evaluations :
    ∃ m', (Exec.program (pollUntil (scripted fun j => .ok (decide (2 ^ 32 ≤ j)))
        ({ interval := 1000, statusInterval := none } : PollConfig) false).attempt :
          Program (List Nat) Unit (Except Fault PollResult)).alone { world := [] } [] =
        (m', some (.ok ⟨true, false, false, 2 ^ 32 - 1, 0, (2 ^ 32 - 1) * 1000⟩)) := by
  have hgo : ∀ j, 1 ≤ j → j < 2 ^ 32 → verdict { interval := 1000, statusInterval := none } false
      (fun j => .ok (decide (2 ^ 32 ≤ j))) false none j = none := by
    intro j _ hj
    have hlt : ¬4294967296 ≤ j := by omega
    simp [verdict, cancelledBefore, hlt]
  have hstop : verdict { interval := 1000, statusInterval := none } false
      (fun j => .ok (decide (2 ^ 32 ≤ j))) false none (2 ^ 32) =
        some (.ok ⟨true, false, false, 2 ^ 32 - 1, 0, (2 ^ 32 - 1) * 1000⟩) := by
    decide
  obtain ⟨m', he, -⟩ := pollUntil_alone (β := Unit) { interval := 1000, statusInterval := none }
    (by simp) false _ false none { world := [] } (by decide) (by decide) hgo hstop
  exact ⟨m', he⟩

end Poll

end Rollout
