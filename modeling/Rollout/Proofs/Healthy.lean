import Mathlib
import Rollout.Execution
import Rollout.Proofs.Wake
import Rollout.Proofs.Poll
import Rollout.Proofs.Pruning
import Rollout.Proofs.Membership
/-!
# Waiting for healthy instances

A wait for a condition, run alone among any happenings, goes as `Poll.untilHolds` says: at
each evaluation instant it stops cancelled if the run is, and otherwise probes the world as it
is then; a fault or a condition that holds ends the wait, as does one that does not hold in a
dry run; otherwise it sleeps one interval, which the run's cancellation may cut short, and
evaluates again. The notices it writes while sleeping only write the journal, so the wait ends
as the probe and the happenings decide (`pollUntil_untilHolds`).

Waiting for healthy instances behind a load balancer first checks that the load balancer exists,
then waits with the probe `World.countHealthy`: it asks the service for the instances as they
are at that instant, and the condition holds when those in service meet the threshold out of
all of them.

* `Poll.untilHolds_ne_ok_false`: a wait never ends unsatisfied without a fault;
* `Poll.pollUntil_untilHolds`: **a wait goes as `untilHolds` says**, for any check that answers
  as its probe;
* `World.yields_callBalancers`: a call to the service goes as `World.call` says;
* `Execution.waitHealthy_yields`: waiting for health ends as `awaitHealthy` says;
* `Execution.wait_until_healthy`: **the whole wait as a program**, alone and on the machine.
-/

namespace Rollout

open Machine

variable {σ β τ : Type}

/-- Probing the worlds of machines alike keeps them alike. -/
theorem Machine.Like.probed {m m' : Machine σ} (h : Like m m') (w : σ) :
    Like { m with world := w } { m' with world := w } :=
  ⟨rfl, h.now, h.cancelled, h.entropy⟩

/-! ### A wait for any condition -/

namespace Poll

/-- How a wait for a condition goes among any happenings, run alone from an evaluation instant
with at most `n` evaluations left: the answer, the machine and the happenings still to come.
The probe answers from the world and changes it, at no cost in time. -/
def untilHolds (probe : σ → Except Fault Bool × σ) (dryRun : Bool) (interval : Nat) :
    Nat → Machine σ → List (Nat × Happening σ) →
      Except Fault Bool × Machine σ × List (Nat × Happening σ)
  | 0, m, hs => (.error .cancelled, m, hs)
  | n + 1, m, hs =>
    if m.cancelled then (.error .cancelled, m, hs) else
    let probed : Machine σ := { m with world := (probe m.world).2 }
    match (probe m.world).1 with
    | .error e => (.error e, probed, hs)
    | .ok true => (.ok true, probed, hs)
    | .ok false =>
      if dryRun then (.ok true, probed, hs) else
      let slept := probed.waitTill (probed.now + interval) hs
      if slept.1.cancelled then (.error .cancelled, slept.1, slept.2)
      else untilHolds probe dryRun interval n slept.1 slept.2

section Spec

variable {probe : σ → Except Fault Bool × σ} {dryRun : Bool} {interval n : Nat} {m : Machine σ}
  {hs : List (Nat × Happening σ)}

theorem untilHolds_cancelled (hc : m.cancelled = true) :
    untilHolds probe dryRun interval (n + 1) m hs = (.error .cancelled, m, hs) := by
  simp [untilHolds, hc]

theorem untilHolds_fault {e : Fault} (hc : m.cancelled = false) (hv : (probe m.world).1 = .error e) :
    untilHolds probe dryRun interval (n + 1) m hs =
      (.error e, { m with world := (probe m.world).2 }, hs) := by
  simp [untilHolds, hc, hv]

theorem untilHolds_holds (hc : m.cancelled = false) (hv : (probe m.world).1 = .ok true) :
    untilHolds probe dryRun interval (n + 1) m hs =
      (.ok true, { m with world := (probe m.world).2 }, hs) := by
  simp [untilHolds, hc, hv]

theorem untilHolds_pretend (hc : m.cancelled = false) (hv : (probe m.world).1 = .ok false) :
    untilHolds probe true interval (n + 1) m hs =
      (.ok true, { m with world := (probe m.world).2 }, hs) := by
  simp [untilHolds, hc, hv]

/-- A condition that does not hold out of a dry run: the wait sleeps one interval, and ends
cancelled if the sleep was cut short, else evaluates again. -/
theorem untilHolds_sleep (hc : m.cancelled = false) (hv : (probe m.world).1 = .ok false) :
    untilHolds probe false interval (n + 1) m hs =
      let slept := ({ m with world := (probe m.world).2 } : Machine σ).waitTill (m.now + interval) hs
      if slept.1.cancelled then (.error .cancelled, slept.1, slept.2)
      else untilHolds probe false interval n slept.1 slept.2 := by
  simp [untilHolds, hc, hv]

end Spec

/-- **A wait never ends unsatisfied without a fault**: it holds, is taken to hold, is cancelled,
or fails. -/
theorem untilHolds_ne_ok_false (probe : σ → Except Fault Bool × σ) (dryRun : Bool)
    (interval : Nat) : ∀ n (m : Machine σ) hs,
      (untilHolds probe dryRun interval n m hs).1 ≠ .ok false
  | 0, _, _ => by simp [untilHolds]
  | n + 1, m, hs => by
    cases hc : m.cancelled
    case true => simp [untilHolds_cancelled hc]
    cases hv : (probe m.world).1 with
    | error e => simp [untilHolds_fault hc hv]
    | ok b =>
      cases b
      case true => simp [untilHolds_holds hc hv]
      cases dryRun
      case true => simp [untilHolds_pretend hc hv]
      rw [untilHolds_sleep hc hv]
      dsimp only
      split
      · simp
      · exact untilHolds_ne_ok_false probe false interval n _ _

/-- **A dry run evaluates once and holds**, at once, when it is not cancelled and the evaluation
does not fail. -/
theorem untilHolds_dryRun {probe : σ → Except Fault Bool × σ} {interval n : Nat} {m : Machine σ}
    {hs : List (Nat × Happening σ)} {b : Bool} (hc : m.cancelled = false)
    (hv : (probe m.world).1 = .ok b) :
    untilHolds probe true interval (n + 1) m hs =
      (.ok true, { m with world := (probe m.world).2 }, hs) := by
  cases b with
  | true => exact untilHolds_holds hc hv
  | false => exact untilHolds_pretend hc hv

/-- The answer of a wait to the actor that waits: a cancelled wait is the cancellation fault,
any other whether it was satisfied. -/
def answer (r : Except Fault PollResult) : Except Fault Bool :=
  (r.bind PollResult.intoResult).map (·.satisfied)

theorem answer_ok (r : PollResult) : answer (.ok r) = r.intoResult.map (·.satisfied) := rfl

section Rounds

variable {config : PollConfig} {dryRun : Bool} {s : Scope} {check : Job σ β τ Bool}
  {probe : σ → Except Fault Bool × σ}

/-- A line logged and then the end of the wait: it answers as the flags say, on a machine alike
to any that the waiting machine is alike to, whatever the line and the tally. -/
theorem say_finish_yields {e : Event} {t : Tally} {sat sim can : Bool} {ms m : Machine σ}
    {hs : List (Nat × Happening σ)} (hl : Like ms m) :
    (Job.lift (Exec.say e) >>= fun _ => Job.lift (t.finish sat sim can) :
      Job σ β τ PollResult).Yields s m hs fun r m' hs' =>
        answer r = (if can then .error .cancelled else .ok sat) ∧ Like ms m' ∧ hs' = hs := by
  apply Job.Yields.say_bind
  apply Job.yields_lift
  apply finish_yields
  exact ⟨by cases can <;> rfl, hl.trans (Like.journal_self _ _), rfl⟩

/-- **A wait evaluates as the probe says and ends as `untilHolds` says**, from any machine alike
to the one `untilHolds` starts from: by induction on the rounds left, each round probing, then
ending, or sleeping as one wait until the next evaluation (`pause_waitTill`). -/
theorem rounds_untilHolds (hp : ∀ p, config.statusInterval = some p → 0 < p)
    (hcheck : ∀ (m : Machine σ) hs, check.Yields s m hs fun r m' hs' =>
      r = (probe m.world).1 ∧ Like { m with world := (probe m.world).2 } m' ∧ hs' = hs) :
    ∀ n t due (ms m : Machine σ) hs, Like ms m → Pending config due m.now →
      (rounds check config dryRun n t due).Yields s m hs fun r m' hs' =>
        answer r = (untilHolds probe dryRun config.interval n ms hs).1 ∧
        Like (untilHolds probe dryRun config.interval n ms hs).2.1 m' ∧
        hs' = (untilHolds probe dryRun config.interval n ms hs).2.2 := by
  intro n
  induction n with
  | zero =>
    intro t _ ms m hs hl _
    rw [rounds.eq_1]
    apply Job.yields_lift
    apply finish_yields
    exact ⟨rfl, hl, rfl⟩
  | succ n ih =>
    intro t due ms m hs hl hdue
    rw [rounds.eq_2]
    apply Job.Yields.bind
    apply Job.yields_lift
    apply Exec.yields_isCancelled
    cases hc : m.cancelled with
    | true =>
      -- cancelled before the evaluation
      rw [untilHolds_cancelled (hl.cancelled.trans hc)]
      simp only [if_true]
      exact say_finish_yields hl
    | false =>
      have hcs : ms.cancelled = false := hl.cancelled.trans hc
      have hws : probe ms.world = probe m.world := by rw [hl.world]
      simp only [Bool.false_eq_true, if_false]
      apply Job.Yields.bind
      refine (hcheck m hs).mono fun r m₁ hs₁ h₁ => ?_
      obtain ⟨hr, hl₁, hh₁⟩ := h₁
      subst hr hh₁
      -- the machine `untilHolds` probes from is alike to the one the check leaves
      have hl₁' : Like { ms with world := (probe ms.world).2 } m₁ := by
        rw [hws]
        exact (hl.probed _).trans hl₁
      cases hv : (probe m.world).1 with
      | error e =>
        rw [untilHolds_fault hcs (by rw [hws]; exact hv)]
        exact ⟨rfl, hl₁', rfl⟩
      | ok b =>
        cases b with
        | true =>
          rw [untilHolds_holds hcs (by rw [hws]; exact hv)]
          simp only [if_true]
          exact say_finish_yields hl₁'
        | false =>
          cases dryRun with
          | true =>
            rw [untilHolds_pretend hcs (by rw [hws]; exact hv)]
            simp only [Bool.false_eq_true, if_false, if_true]
            exact say_finish_yields hl₁'
          | false =>
            rw [untilHolds_sleep hcs (by rw [hws]; exact hv)]
            simp only [Bool.false_eq_true, if_false]
            apply Job.Yields.say_bind
            apply Job.Yields.bind
            apply Job.yields_lift
            apply Exec.yields_now
            apply Job.Yields.bind
            apply Job.yields_lift
            refine (pause_waitTill hp (config.interval + 1) _ due _ hs₁ (by simp) (by simp)
              (by simpa [← hl₁.cancelled] using hc) (by simpa [← hl₁.now] using hdue)).mono
              fun r m₃ hs₃ h₃ => ?_
            obtain ⟨hl₃, hh₃, hend⟩ := h₃
            -- the spec's sleep ends alike to the program's
            have hnow : ms.now = m₁.now := hl₁'.now
            obtain ⟨hl₄, hh₄⟩ := Like.waitTill_journal hl₁' (w := ms.now + config.interval)
              (by simp [hnow]) hl₃ hh₃
            dsimp only
            cases r with
            | cancelled t' =>
              rw [if_pos (hl₄.cancelled.trans hend)]
              refine (say_finish_yields hl₄).mono fun _ _ _ h' => ?_
              obtain ⟨ha, hl', hh'⟩ := h'
              exact ⟨ha, hl', hh'.trans hh₄⟩
            | woke t' due' =>
              obtain ⟨hc₃, hdue₃⟩ := hend
              rw [if_neg (by simp [hl₄.cancelled.trans hc₃]), hh₄]
              exact ih t' due' _ m₃ _ hl₄ hdue₃

/-- **A wait goes as `untilHolds` says** from any machine alike, within the bound on its rounds:
it starts its tally and its first notice's due time at the instant it starts, and evaluates at
once. -/
theorem pollUntil_untilHolds (hp : ∀ p, config.statusInterval = some p → 0 < p)
    (hcheck : ∀ (m : Machine σ) hs, check.Yields s m hs fun r m' hs' =>
      r = (probe m.world).1 ∧ Like { m with world := (probe m.world).2 } m' ∧ hs' = hs)
    {ms m : Machine σ} (hl : Like ms m) (hs : List (Nat × Happening σ)) :
    (pollUntil check config dryRun).Yields s m hs fun r m' hs' =>
      answer r = (untilHolds probe dryRun config.interval roundBound ms hs).1 ∧
      Like (untilHolds probe dryRun config.interval roundBound ms hs).2.1 m' ∧
      hs' = (untilHolds probe dryRun config.interval roundBound ms hs).2.2 := by
  -- the first notice falls due a whole status period after the start
  have hdue : Pending config (config.statusInterval.map (m.now + ·)) m.now := by
    intro n hn
    cases hsi : config.statusInterval with
    | none => simp [hsi] at hn
    | some p =>
      have hpos := hp p hsi
      simp only [hsi, Option.map_some, Option.some.injEq] at hn
      exact ⟨by omega, rfl⟩
  unfold pollUntil
  apply Job.Yields.bind
  apply Job.yields_lift
  apply Exec.yields_now
  exact rounds_untilHolds hp hcheck roundBound _ _ ms m hs hl hdue

end Rounds

end Poll

/-! ### Calls to the load balancer service -/

namespace World

variable {s : Scope} {m : Machine World} {hs : List (Nat × Happening World)}

/-- A call to the load balancer service of a region, as the world answers it: with no service
it fails naming the region and changes nothing; otherwise the service answers and keeps its new
state. -/
def call {α : Type} (region : String) (run : Balancer.Service → Balancer.Service × Except Fault α)
    (w : World) : Except Fault α × World :=
  match w.balancers with
  | none => (.error (Balancer.noBackend region), w)
  | some svc => ((run svc).2, { w with balancers := some (run svc).1 })

/-- A call with nothing logged after it answers as the world answers it, and leaves the machine
alike to the one with the world the call leaves: only the journal holds the worker's line. -/
theorem yields_callBalancers {α : Type} {region operation : String}
    {run : Balancer.Service → Balancer.Service × Except Fault α} {Q : Post World (Except Fault α)}
    (h : ∀ m', Like { m with world := (call region run m.world).2 } m' →
      Q (call region run m.world).1 m' hs) :
    (callBalancers region operation run : Job World β τ α).Yields s m hs Q := by
  unfold callBalancers
  apply Job.Yields.bind
  apply Job.yields_lift
  apply Exec.yields_observe
  dsimp only
  cases hb : m.world.balancers with
  | none =>
    have e : call region run m.world = (.error (Balancer.noBackend region), m.world) := by
      simp [call, hb]
    rw [e] at h
    exact Job.yields_throw (h m (Like.refl m))
  | some svc =>
    have e : call region run m.world =
        ((run svc).2, { m.world with balancers := some (run svc).1 }) := by
      simp [call, hb]
    rw [e] at h
    apply Job.Yields.say_bind
    -- the service keeps its new state and the answer is raised, from any machine alike
    have keep : ∀ m₁ : Machine World, Like m m₁ → (do
        Job.lift (Exec.modify fun w : World => { w with balancers := some (run svc).1 })
        Job.lift Exec.pause
        orThrow (run svc).2 : Job World β τ α).Yields s m₁ hs Q := by
      intro m₁ hl
      apply Job.Yields.bind
      apply Job.yields_lift
      apply Exec.yields_modify
      apply Job.Yields.bind
      apply Job.yields_lift
      apply Exec.yields_pause
      apply yields_orThrow
      apply h
      rw [hl.world]
      exact hl.probed _
    -- nothing is logged after the call, whether it failed or not
    split
    · apply Job.Yields.bind
      apply Job.yields_pure
      exact keep _ (Like.journal_self m _)
    · exact keep _ (Like.journal_self m _)

/-- One evaluation of the health of a load balancer's instances, as the world answers it: the
service describes the instances as they are now, and the condition holds when those in service
are at least what the threshold requires of all of them. -/
def countHealthy (region name : String) (count : Threshold) (w : World) : Except Fault Bool × World :=
  match call region (·.health region name) w with
  | (r, w') =>
    (r.map fun is => decide (count.required is.length ≤ (is.filter (·.isInService)).length), w')

end World

/-- Finding a load balancer the inventory lacks, with no failure scripted for the find, fails with
the fault that it is missing, and only counts the call. -/
theorem Balancer.Service.find_of_missing {svc : Balancer.Service} {region name : String}
    (h : svc.inventory.instances? region name = none)
    (hf : (Keyed.get? Balancer.Method.find.name svc.failures).getD 0 = 0) :
    svc.find region name = ({ svc with calls := Balancer.bump Balancer.Method.find.name svc.calls },
      .error (Balancer.Inventory.missing region name)) := by
  have hfind := Balancer.Inventory.find_of_missing h
  unfold Balancer.Service.find Balancer.Service.call
  dsimp only
  cases hg : Keyed.get? Balancer.Method.find.name svc.failures with
  | none => simp [hfind, Except.map]
  | some k =>
    rw [hg] at hf
    -- no failure is left to script: the count is zero
    obtain rfl : k = 0 := hf
    simp [hfind, Except.map]

/-! ### Waiting for healthy instances -/

namespace Execution

open Balancer

/-- The wait for healthy instances behind a load balancer, as the world answers it: the load
balancer is found first, and a failed find ends the wait before any evaluation; then the
instances are evaluated as `Poll.untilHolds` says, each time as they are then. -/
def awaitHealthy (dryRun : Bool) (region name : String) (count : Threshold) (interval : Nat)
    (m : Machine World) (hs : List (Nat × Happening World)) :
    Except Fault Bool × Machine World × List (Nat × Happening World) :=
  match World.call region (·.find region name) m.world with
  | (.error e, w) => (.error e, { m with world := w }, hs)
  | (.ok (), w) => Poll.untilHolds (World.countHealthy region name count) dryRun interval roundBound
      { m with world := w } hs

variable {dryRun : Bool} {region name : String} {count : Threshold} {interval : Nat}
  {m : Machine World} {hs : List (Nat × Happening World)}

/-- The wait never answers that the instances are not healthy. -/
theorem awaitHealthy_ne_ok_false :
    (awaitHealthy dryRun region name count interval m hs).1 ≠ .ok false := by
  unfold awaitHealthy
  split
  · simp
  · exact Poll.untilHolds_ne_ok_false _ _ _ _ _ _

/-- A load balancer the inventory lacks, with no failure scripted for its find, ends the wait
with the fault that it is missing, before any evaluation: the service only counts the find. -/
theorem awaitHealthy_missing {svc : Service} (hb : m.world.balancers = some svc)
    (h : svc.inventory.instances? region name = none)
    (hf : (Keyed.get? Method.find.name svc.failures).getD 0 = 0) :
    awaitHealthy dryRun region name count interval m hs =
      (.error (Inventory.missing region name),
        { m with
          world := { m.world with
            balancers := some { svc with calls := bump Method.find.name svc.calls } } },
        hs) := by
  have e : World.call region (·.find region name) m.world =
      (.error (Inventory.missing region name),
        { m.world with balancers := some { svc with calls := bump Method.find.name svc.calls } }) := by
    simp [World.call, hb, Service.find_of_missing h hf]
  unfold awaitHealthy
  rw [e]

/-- **A dry run evaluates once and answers that the instances are healthy**, with no time
passing, when it is not cancelled and neither the find nor the evaluation fails. -/
theorem awaitHealthy_dryRun {w : World} {b : Bool} (hc : m.cancelled = false)
    (hf : World.call region (·.find region name) m.world = (.ok (), w))
    (hv : (World.countHealthy region name count w).1 = .ok b) :
    awaitHealthy true region name count interval m hs =
      (.ok true, { m with world := (World.countHealthy region name count w).2 }, hs) := by
  -- the bound leaves the first round to take
  have hbound : roundBound = 2 ^ 64 - 1 + 1 := by decide
  unfold awaitHealthy
  rw [hf, hbound]
  exact Poll.untilHolds_dryRun hc hv

/-- **Waiting for health ends as `awaitHealthy` says**, among any happenings: with the answer and
the happenings it says, on a machine alike to the one it says. -/
theorem waitHealthy_yields {poll : PollConfig} {s : Scope}
    (hp : ∀ p, poll.statusInterval = some p → 0 < p) (m : Machine World)
    (hs : List (Nat × Happening World)) :
    (waitHealthy dryRun region name count poll : Work τ Bool).Yields s m hs fun r m' hs' =>
      r = (awaitHealthy dryRun region name count poll.interval m hs).1 ∧
      Like (awaitHealthy dryRun region name count poll.interval m hs).2.1 m' ∧
      hs' = (awaitHealthy dryRun region name count poll.interval m hs).2.2 := by
  unfold waitHealthy awaitHealthy
  apply Job.Yields.bind
  apply World.yields_callBalancers
  cases hf : World.call region (·.find region name) m.world with
  | mk r w =>
  intro m₁ hl₁
  cases r with
  | error e => exact ⟨rfl, hl₁, rfl⟩
  | ok u =>
  cases u
  dsimp only
  apply Job.Yields.bind
  refine (@Poll.pollUntil_untilHolds World Outcome τ poll dryRun s _
    (World.countHealthy region name count) hp ?_ _ _ hl₁ hs).mono
    fun r m₂ hs₂ ⟨ha, hl₂, hh₂⟩ => ?_
  · -- the check: a health call and a count, answered as `World.countHealthy` says
    intro m₃ hs₃
    apply Job.Yields.bind
    apply World.yields_callBalancers
    unfold World.countHealthy
    cases hc : World.call region (·.health region name) m₃.world with
    | mk r w =>
    intro m₄ hl₄
    cases r with
    | error e => exact ⟨rfl, hl₄, rfl⟩
    | ok is =>
      dsimp only
      apply Job.Yields.say_bind
      apply Job.yields_pure
      exact ⟨rfl, hl₄.trans (Like.journal_self _ _), rfl⟩
  · -- the wait's result is raised if cancelled, and read for whether it was satisfied
    cases r with
    | error e => exact ⟨ha, hl₂, hh₂⟩
    | ok res =>
      apply Job.Yields.bind
      apply World.yields_orThrow
      cases hi : res.intoResult with
      | error e =>
        refine ⟨?_, hl₂, hh₂⟩
        rw [← ha, Poll.answer_ok, hi]
        rfl
      | ok res' =>
        have hans : Except.ok res'.satisfied = (Poll.untilHolds (World.countHealthy region name count)
            dryRun poll.interval roundBound { m with world := w } hs).1 := by
          rw [← ha, Poll.answer_ok, hi]
          rfl
        dsimp only
        split
        · apply Job.Yields.say_bind
          apply Job.yields_pure
          exact ⟨hans, hl₂.trans (Like.journal_self _ _), hh₂⟩
        · apply Job.yields_pure
          exact ⟨hans, hl₂, hh₂⟩

/-- **Waiting for healthy instances**, run alone as a whole program from any machine among any
happenings: it answers as `awaitHealthy` says, on a machine alike to the one it says, and the
machine's run, whenever it answers, gives that answer on that machine. So the load balancer is
found first, and then each evaluation counts the instances in service as they are at that
instant against what the threshold requires of all of them. The wait never answers that the
instances are not healthy; a load balancer the inventory lacks ends it with an unrecoverable
fault before any evaluation, unless a failure is scripted for the find; and a dry run neither
cancelled nor failing answers yes after exactly one evaluation, with no time passing. -/
theorem wait_until_healthy (dryRun : Bool) (region name : String) (count : Threshold)
    (poll : PollConfig) (hp : ∀ p, poll.statusInterval = some p → 0 < p) (m : Machine World)
    (hs : List (Nat × Happening World)) :
    let p : Program World Outcome (Except Fault Bool) :=
      Exec.program (waitHealthy dryRun region name count poll).attempt
    let spec := awaitHealthy dryRun region name count poll.interval m (Happening.schedule hs)
    ∃ m', p.alone m (Happening.schedule hs) = (m', some spec.1) ∧ Like spec.2.1 m' ∧
      (∀ m'' r, p.run m hs = (m'', some r) → m'' = m' ∧ r = spec.1) ∧
      spec.1 ≠ .ok false ∧
      (∀ svc, m.world.balancers = some svc → svc.inventory.instances? region name = none →
        (Keyed.get? Method.find.name svc.failures).getD 0 = 0 →
        spec.1 = .error (Inventory.missing region name) ∧
        (Inventory.missing region name).kind = .unrecoverable ∧
        m'.world = { m.world with
          balancers := some { svc with calls := bump Method.find.name svc.calls } }) ∧
      (∀ w b, dryRun = true → m.cancelled = false →
        World.call region (·.find region name) m.world = (.ok (), w) →
        (World.countHealthy region name count w).1 = .ok b →
        spec.1 = .ok true ∧ m'.now = m.now ∧ m'.world = (World.countHealthy region name count w).2) := by
  dsimp only
  obtain ⟨a, m', hs', ⟨rfl, hl, -⟩, he⟩ :=
    (Job.yields_attempt (waitHealthy_yields (s := []) hp m (Happening.schedule hs))).program
  refine ⟨m', he, hl, fun m'' r hrun => ?_, awaitHealthy_ne_ok_false, fun svc hb h hf => ?_,
    fun w b hd hc hf hv => ?_⟩
  · -- the machine's run answers as the program does alone
    have hsame := Program.run_eq_alone he hrun
    simp only [Prod.mk.injEq, Option.some.injEq] at hsame
    exact hsame
  · rw [awaitHealthy_missing hb h hf] at hl ⊢
    exact ⟨rfl, rfl, hl.world.symm⟩
  · subst hd
    rw [awaitHealthy_dryRun hc hf hv] at hl ⊢
    exact ⟨rfl, hl.now.symm, hl.world.symm⟩

/-- Waiting on a load balancer that an empty inventory lacks fails with the fault that it is
missing. -/
theorem wait_until_healthy_missing_balancer :
    (∀ p, ({} : PollConfig).statusInterval = some p → 0 < p) ∧
    ∃ m', (Exec.program (waitHealthy false "eu-west-1" "web" (.absolute 1) {}).attempt :
        Program World Outcome (Except Fault Bool)).alone
        { world := { balancers := some { inventory := {} } } } [] =
      (m', some (.error (Inventory.missing "eu-west-1" "web"))) := by
  have hp : ∀ p, ({} : PollConfig).statusInterval = some p → 0 < p := by
    intro p h
    injection h with h
    omega
  refine ⟨hp, ?_⟩
  obtain ⟨m', he, -, -, -, hmissing, -⟩ := wait_until_healthy false "eu-west-1" "web" (.absolute 1) {}
    hp { world := { balancers := some { inventory := {} } } } []
  obtain ⟨hr, -, -⟩ := hmissing _ rfl rfl rfl
  rw [hr] at he
  exact ⟨m', he⟩

end Execution

end Rollout
