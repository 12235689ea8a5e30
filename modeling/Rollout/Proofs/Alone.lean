import Mathlib
import Rollout.Proofs.Moves
/-!
# Programs that run alone

A program that does not fork runs alone on the machine, and then what the machine does is a
plain function of the program, with no fuel: answer the requests one after another; when the
program waits (a sleep, or a wait that cancellation may cut short) let the happenings due take
place, each at its time, and resume at the wake or, for a wait, at the first instant the run
is cancelled. A happening due at the very instant of a wake comes after the program has gone
on.

* `Program.alone`: that function;
* `run_eq_alone`: **whenever the machine answers a program that answers alone, it gives the
  same answer and the same final machine.**
-/

namespace Rollout

open Relation

variable {σ β τ : Type}

namespace Program

end Program

namespace Machine

/-- Waits until time `w`, the program being unable to go on before it. The happenings due take
place, each at its time; a wait that cancellation may end (`interruptible`) ends at the first
instant the run is cancelled, and otherwise the clock reaches `w`. -/
def await (w : Nat) (interruptible : Bool) :
    Machine σ → List (Nat × Happening σ) → Machine σ × List (Nat × Happening σ)
  | m, [] => if interruptible && m.cancelled then (m, []) else ({ m with now := max w m.now }, [])
  | m, (t, h) :: rest =>
    if t ≤ m.now then await w interruptible (m.apply h) rest
    else if interruptible && m.cancelled then (m, (t, h) :: rest)
    else if w ≤ t then ({ m with now := max w m.now }, (t, h) :: rest)
    else await w interruptible ({ m with now := t }.apply h) rest

end Machine

namespace Program

/-- Runs a program that does not fork, answering its requests one after another, with the
happenings still to come. A fork or a settled branch has no answer. -/
def alone (m : Machine σ) (hs : List (Nat × Happening σ)) : Program σ β τ → Machine σ × Option τ
  | .finish t => (m, some t)
  | .settle _ => (m, none)
  | .fork _ _ => (m, none)
  | .observe next => alone m hs (next m.world)
  | .change f next => alone { m with world := f m.world } hs next
  | .clock next => alone m hs (next m.now)
  | .emit s e next => alone { m with journal := m.journal.push (s, e) } hs next
  | .isCancelled next => alone m hs (next m.cancelled)
  | .cancel s next => alone (m.cancel s) hs next
  | .sleepUntil t next =>
    if t ≤ m.now then alone m hs next
    else alone (m.await t false hs).1 (m.await t false hs).2 next
  | .waitUntil t next =>
    if m.cancelled then alone m hs (next true)
    else if t ≤ m.now then alone m hs (next false)
    else alone (m.await t true hs).1 (m.await t true hs).2 (next (m.await t true hs).1.cancelled)
  | .draw next => alone m.draw.1 hs (next m.draw.2)
  | .pause next => alone m hs next

/-- A program that cannot go on before a later time: it sleeps until then, or waits until then
and the run is not cancelled. -/
inductive Waits (m : Machine σ) : Program σ β τ → Nat → Prop
  | sleep {w : Nat} {next : Program σ β τ} (h : m.now < w) : Waits m (.sleepUntil w next) w
  | wait {w : Nat} {next : Bool → Program σ β τ} (hc : m.cancelled = false) (h : m.now < w) :
      Waits m (.waitUntil w next) w

/-- Answering one request does not change what the program does alone. -/
theorem alone_step {m m' : Machine σ} {p p' : Program σ β τ} (hs : List (Nat × Happening σ))
    (h : p.step m = some (m', p')) : p'.alone m' hs = p.alone m hs := by
  cases step_answer h with
  | observe | change | clock | emit | isCancelled | cancel | draw => rfl
  | sleepUntil _ ht => simp [alone, ht]
  | waitCancelled _ hc => simp [alone, hc]
  | waitElapsed _ hc ht => simp [alone, hc, ht]

end Program

namespace Machine

@[simp] theorem cancel_now (m : Machine σ) (s : Scope) : (m.cancel s).now = m.now := by
  unfold cancel; split <;> rfl

@[simp] theorem cancel_world (m : Machine σ) (s : Scope) : (m.cancel s).world = m.world := by
  unfold cancel; split <;> rfl

@[simp] theorem draw_world (m : Machine σ) : m.draw.1.world = m.world := by
  unfold draw; split <;> rfl

@[simp] theorem draw_now (m : Machine σ) : m.draw.1.now = m.now := by
  unfold draw; split <;> rfl

@[simp] theorem apply_now (m : Machine σ) (h : Happening σ) : (m.apply h).now = m.now := by
  cases h <;> simp [apply]

theorem happen_now (m : Machine σ) (hs : List (Nat × Happening σ)) :
    (m.happen hs).1.now = m.now := by
  induction hs generalizing m with
  | nil => rfl
  | cons x rest ih =>
    obtain ⟨t, h⟩ := x
    unfold happen
    split
    · rw [ih, apply_now]
    · rfl

/-- After the happenings due, none of those left is due. -/
theorem happen_rest (m : Machine σ) (hs : List (Nat × Happening σ)) :
    ∀ x ∈ (m.happen hs).2.1.head?, m.now < x.1 := by
  induction hs generalizing m with
  | nil => simp [happen]
  | cons x rest ih =>
    obtain ⟨t, h⟩ := x
    unfold happen
    split
    · intro y hy
      have := ih (m.apply h) y hy
      rwa [apply_now] at this
    · rename_i ht
      simp only [List.head?_cons, Option.mem_def, Option.some.injEq, forall_eq']
      omega

/-- Waiting from after the happenings due is waiting from before them. -/
theorem await_happen (w : Nat) (i : Bool) (m : Machine σ) (hs : List (Nat × Happening σ)) :
    (m.happen hs).1.await w i (m.happen hs).2.1 = m.await w i hs := by
  induction hs generalizing m with
  | nil => rfl
  | cons x rest ih =>
    obtain ⟨t, h⟩ := x
    by_cases ht : t ≤ m.now
    · rw [happen, if_pos ht, await, if_pos ht]
      exact ih (m.apply h)
    · rw [happen, if_neg ht]

/-- A wait that cancellation may end, once the run is cancelled and nothing is due, ends at
once. -/
theorem await_cancelled (w : Nat) {m : Machine σ} {hs : List (Nat × Happening σ)}
    (hc : m.cancelled = true) (hd : ∀ x ∈ hs.head?, m.now < x.1) : m.await w true hs = (m, hs) := by
  cases hs with
  | nil => simp [await, hc]
  | cons x rest =>
    obtain ⟨t, h⟩ := x
    have ht : ¬t ≤ m.now := by simpa using hd (t, h) rfl
    simp [await, ht, hc]

/-- A pass over a running program moves nothing only if it can answer no request. -/
theorem Rested.step_none {m : Machine σ} {p : Program σ β τ} (h : Rested m (.running p)) :
    p.step m = none := by
  cases hs : p.step m with
  | none => rfl
  | some r =>
    obtain ⟨m', p'⟩ := r
    have hf : ∀ bs next, p = .fork bs next → False := by
      rintro bs next rfl; simp [Program.step] at hs
    have hp : ∀ next, p = .pause next → False := by
      rintro next rfl; simp [Program.step] at hs
    unfold Rested at h
    rw [show passFuel = 9999999 + 1 from rfl, Thread.advance.eq_4 _ _ _ _ hf hp, hs,
      Thread.advance_true _ _ _ _ rfl] at h
    cases h

/-- **A lone program at rest with no answer has settled or waits for a later time.** -/
theorem Rested.waits {m : Machine σ} {p : Program σ β τ} (h : Rested m (.running p))
    (ha : (Thread.running p).answer? = none) : (∃ b, p = .settle b) ∨ ∃ w, p.Waits m w := by
  have hs := h.step_none
  unfold Rested at h
  rw [show passFuel = 9999999 + 1 from rfl] at h
  cases p with
  | finish => simp [Thread.answer?] at ha
  | settle b => exact .inl ⟨b, rfl⟩
  | fork bs next => rw [Thread.advance.eq_2, Thread.advance_true _ _ _ _ rfl] at h; cases h
  | pause next => rw [Thread.advance.eq_3] at h; cases h
  | sleepUntil t next =>
    simp only [Program.step, ite_eq_right_iff, reduceCtorEq, imp_false, Nat.not_le] at hs
    exact .inr ⟨t, .sleep hs⟩
  | waitUntil t next =>
    simp only [Program.step] at hs
    split at hs
    · cases hs
    · simp only [ite_eq_right_iff, reduceCtorEq, imp_false, Nat.not_le] at hs
      exact .inr ⟨t, .wait (by simpa using ‹¬m.cancelled = true›) hs⟩
  | observe | change | clock | emit | isCancelled | cancel | draw => simp [Program.step] at hs

end Machine

namespace Program

/-- The happenings due while a program waits do not change what it does alone. -/
theorem alone_happen {m m' : Machine σ} {p : Program σ β τ} {w : Nat}
    {hs hs' : List (Nat × Happening σ)} (hw : p.Waits m w) (h : m.happen hs = (m', hs', true)) :
    p.alone m' hs' = p.alone m hs := by
  have hnow : m'.now = m.now := by rw [← Machine.happen_now m hs, h]
  have hawait : ∀ i, m'.await w i hs' = m.await w i hs := fun i => by
    rw [← Machine.await_happen w i m hs, h]
  cases hw with
  | sleep hlt =>
    have hw' : ¬w ≤ m'.now := by omega
    simp only [alone, hw', Nat.not_le.2 hlt, if_false, hawait]
  | wait hc hlt =>
    have hw' : ¬w ≤ m'.now := by omega
    by_cases hc' : m'.cancelled = true
    · -- a happening cancelled the run: the wait ends there and then
      have hrest : ∀ x ∈ hs'.head?, m'.now < x.1 := by
        have := Machine.happen_rest m hs
        rw [h] at this
        simpa [hnow] using this
      have e := Machine.await_cancelled w hc' hrest
      rw [hawait] at e
      simp [alone, hc, hc', e, Nat.not_le.2 hlt]
    · simp [alone, hc, hc', hw', hawait, Nat.not_le.2 hlt]

/-- With nothing due, a waiting program does alone the same once the clock has moved to the
next time that it or a happening waits for. -/
theorem alone_tick {m : Machine σ} {p : Program σ β τ} {w t : Nat}
    {hs : List (Nat × Happening σ)} (hw : p.Waits m w) (hn : (m.happen hs).2.2 = false)
    (ht : (Thread.running p).nextTime hs = some t) :
    p.alone { m with now := max t m.now } hs = p.alone m hs := by
  have hwake : (Thread.running p).wakeTime = some w := by cases hw <;> rfl
  have hlt : m.now < w := by cases hw <;> assumption
  have hmax : max w m.now = w := Nat.max_eq_left (Nat.le_of_lt hlt)
  cases hs with
  | nil =>
    simp only [Thread.nextTime, hwake, List.head?_nil, Option.some.injEq] at ht
    subst ht
    cases hw with
    | sleep _ => simp [alone, Machine.await, Nat.not_le.2 hlt, hmax]
    | wait hc _ => simp [alone, Machine.await, Nat.not_le.2 hlt, hc, hmax]
  | cons x rest =>
    obtain ⟨t0, h⟩ := x
    have h0 : ¬t0 ≤ m.now := fun h' => by simp [Machine.happen, h'] at hn
    simp only [Thread.nextTime, hwake, List.head?_cons, Option.some.injEq] at ht
    subst ht
    by_cases hwt : w ≤ t0
    · -- the wake comes first
      cases hw with
      | sleep _ => simp [alone, Machine.await, Nat.not_le.2 hlt, hmax, h0, hwt]
      | wait hc _ => simp [alone, Machine.await, Nat.not_le.2 hlt, hmax, h0, hwt, hc]
    · -- a happening comes first
      have hmin : min w t0 = t0 := by omega
      have hmax' : max t0 m.now = t0 := by omega
      cases hw with
      | sleep _ => simp [alone, Machine.await, Nat.not_le.2 hlt, hmin, hmax', h0, hwt]
      | wait hc _ => simp [alone, Machine.await, Nat.not_le.2 hlt, hmin, hmax', h0, hwt, hc]

/-- A step of the machine on a program that answers alone leads to a program that answers
alone the same. -/
theorem alone_of_step {m m' m₁ : Machine σ} {p : Program σ β τ} {th₁ : Thread σ β τ}
    {hs hs₁ : List (Nat × Happening σ)} {a : τ} (hp : p.alone m hs = (m', some a))
    (h : Machine.Step (m, .running p, hs) (m₁, th₁, hs₁)) :
    ∃ p₁, th₁ = .running p₁ ∧ p₁.alone m₁ hs₁ = (m', some a) := by
  cases h with
  | move hm =>
    cases hm with
    | step h => exact ⟨_, rfl, (alone_step hs h).trans hp⟩
    | pause => exact ⟨_, rfl, hp⟩
    | fork => simp [alone] at hp
  | happen hr ha h =>
    rcases Machine.Rested.waits hr ha with ⟨b, rfl⟩ | ⟨w, hw⟩
    · simp [alone] at hp
    · exact ⟨p, rfl, (alone_happen hw h).trans hp⟩
  | tick hr ha hn ht =>
    rcases Machine.Rested.waits hr ha with ⟨b, rfl⟩ | ⟨w, hw⟩
    · simp [alone] at hp
    · exact ⟨p, rfl, (alone_tick hw hn ht).trans hp⟩

/-- Every answer that steps of the machine reach from a program that answers alone is the answer
it gives alone. -/
theorem alone_of_steps {m m' m'' : Machine σ} {p : Program σ β τ}
    {hs hs'' : List (Nat × Happening σ)} {a b : τ} (hp : p.alone m hs = (m', some a))
    (h : Machine.Steps (m, .running p, hs) (m'', .running (.finish b), hs'')) :
    (m'', some b) = (m', some a) := by
  -- on the steps from the first: every configuration on the way runs a program that gives
  -- alone what the first gives
  generalize hc : ((m, .running p, hs) : Machine.Config σ β τ) = c at h
  induction h using ReflTransGen.head_induction_on generalizing m p hs with
  | refl =>
    cases hc
    simpa [alone] using hp
  | @head c c₁ hstep _ ih =>
    subst hc
    obtain ⟨m₁, th₁, hs₁⟩ := c₁
    obtain ⟨p₁, rfl, hp₁⟩ := alone_of_step hp hstep
    exact ih hp₁ rfl

/-- **Whenever the machine answers a program that answers alone, it gives the same answer and
the same final machine**, whatever fuel it had. -/
theorem run_eq_alone {m m' m'' : Machine σ} {p : Program σ β τ} {hs : List (Nat × Happening σ)}
    {a b : τ} (hp : p.alone m (Happening.schedule hs) = (m', some a))
    (h : p.run m hs = (m'', some b)) : (m'', some b) = (m', some a) := by
  obtain ⟨hs', hsteps⟩ := Machine.run_steps h
  exact alone_of_steps hp hsteps

end Program

end Rollout
