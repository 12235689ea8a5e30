import Mathlib
import Rollout.Proofs.Naturality
/-!
# How far a run reaches

The machine answers a bounded number of requests on the main line of a run: at most `passFuel`
in a pass, `passLimit` passes in an instant and `instantLimit` instants. Two programs that make
the same first `reach` requests (`Program.Agree`) therefore run alike on the machine, whatever
they would do after: what lies beyond is never reached.

The loops of the actors are written with a bound on their rounds, since a program is a finite
tree: a wait evaluates at most `roundBound` times, a call is attempted at most `attemptBound`
times, and a loop that runs out of rounds gives up as cancelled, which the code it models never
does. Every round of a wait asks whether the run was cancelled and every retry draws a random
word, so two waits, or two retry loops, that differ only in their bounds agree for as many
requests as the smaller bound: the bound lies past the machine's reach, and raising it changes
no run.

* `Program.run_agree`: **programs that agree for `reach` requests run alike on the machine**;
* `Poll.run_rounds_past_bound`, `Retry.run_attempts_past_bound`: **raising a loop's bound past
  `roundBound` or `attemptBound` changes no run of the machine**, whatever follows the loop.
-/

namespace Rollout

open Thread Machine

variable {σ β τ α γ : Type}

namespace Program

/-- Two programs agree for `n` requests: up to the `n`-th they make the same requests with the
same data, a fork having the same branches, and a program that has ended agrees only with
itself. -/
inductive Agree : Nat → Program σ β τ → Program σ β τ → Prop
  | zero (p q : Program σ β τ) : Agree 0 p q
  | finish (n : Nat) (a : τ) : Agree n (.finish a) (.finish a)
  | settle (n : Nat) (b : β) : Agree n (.settle b) (.settle b)
  | observe {n : Nat} {f g : σ → Program σ β τ} (h : ∀ w, Agree n (f w) (g w)) :
      Agree (n + 1) (.observe f) (.observe g)
  | change {n : Nat} (f : σ → σ) {p q : Program σ β τ} (h : Agree n p q) :
      Agree (n + 1) (.change f p) (.change f q)
  | clock {n : Nat} {f g : Nat → Program σ β τ} (h : ∀ t, Agree n (f t) (g t)) :
      Agree (n + 1) (.clock f) (.clock g)
  | emit {n : Nat} (s : Scope) (e : Event) {p q : Program σ β τ} (h : Agree n p q) :
      Agree (n + 1) (.emit s e p) (.emit s e q)
  | isCancelled {n : Nat} {f g : Bool → Program σ β τ} (h : ∀ b, Agree n (f b) (g b)) :
      Agree (n + 1) (.isCancelled f) (.isCancelled g)
  | cancel {n : Nat} (s : Scope) {p q : Program σ β τ} (h : Agree n p q) :
      Agree (n + 1) (.cancel s p) (.cancel s q)
  | sleepUntil {n : Nat} (t : Nat) {p q : Program σ β τ} (h : Agree n p q) :
      Agree (n + 1) (.sleepUntil t p) (.sleepUntil t q)
  | waitUntil {n : Nat} (t : Nat) {f g : Bool → Program σ β τ} (h : ∀ b, Agree n (f b) (g b)) :
      Agree (n + 1) (.waitUntil t f) (.waitUntil t g)
  | draw {n : Nat} {f g : Nat → Program σ β τ} (h : ∀ w, Agree n (f w) (g w)) :
      Agree (n + 1) (.draw f) (.draw g)
  | pause {n : Nat} {p q : Program σ β τ} (h : Agree n p q) : Agree (n + 1) (.pause p) (.pause q)
  | fork {n : Nat} (bs : List (Program σ β τ)) {f g : List β → Program σ β τ}
      (h : ∀ rs, Agree n (f rs) (g rs)) : Agree (n + 1) (.fork bs f) (.fork bs g)

namespace Agree

/-- Programs that agree for `n` requests agree for fewer. -/
theorem mono {n k : Nat} {p q : Program σ β τ} (h : Agree n p q) (hk : k ≤ n) : Agree k p q := by
  induction h generalizing k with
  | zero => exact (Nat.le_zero.1 hk) ▸ .zero _ _
  | finish n a => exact .finish k a
  | settle n b => exact .settle k b
  | observe _ ih =>
    cases k with
    | zero => exact .zero _ _
    | succ k => exact .observe fun w => ih w (by omega)
  | change f _ ih =>
    cases k with
    | zero => exact .zero _ _
    | succ k => exact .change f (ih (by omega))
  | clock _ ih =>
    cases k with
    | zero => exact .zero _ _
    | succ k => exact .clock fun t => ih t (by omega)
  | emit s e _ ih =>
    cases k with
    | zero => exact .zero _ _
    | succ k => exact .emit s e (ih (by omega))
  | isCancelled _ ih =>
    cases k with
    | zero => exact .zero _ _
    | succ k => exact .isCancelled fun b => ih b (by omega)
  | cancel s _ ih =>
    cases k with
    | zero => exact .zero _ _
    | succ k => exact .cancel s (ih (by omega))
  | sleepUntil t _ ih =>
    cases k with
    | zero => exact .zero _ _
    | succ k => exact .sleepUntil t (ih (by omega))
  | waitUntil t _ ih =>
    cases k with
    | zero => exact .zero _ _
    | succ k => exact .waitUntil t fun b => ih b (by omega)
  | draw _ ih =>
    cases k with
    | zero => exact .zero _ _
    | succ k => exact .draw fun w => ih w (by omega)
  | pause _ ih =>
    cases k with
    | zero => exact .zero _ _
    | succ k => exact .pause (ih (by omega))
  | fork bs _ ih =>
    cases k with
    | zero => exact .zero _ _
    | succ k => exact .fork bs fun rs => ih rs (by omega)

/-- A program agrees with itself for any number of requests. -/
theorem refl : ∀ (n : Nat) (p : Program σ β τ), Agree n p p
  | 0, p => .zero p p
  | n + 1, p => by
    cases p with
    | finish a => exact .finish _ a
    | settle b => exact .settle _ b
    | observe f => exact .observe fun w => refl n (f w)
    | change f p => exact .change f (refl n p)
    | clock f => exact .clock fun t => refl n (f t)
    | emit s e p => exact .emit s e (refl n p)
    | isCancelled f => exact .isCancelled fun b => refl n (f b)
    | cancel s p => exact .cancel s (refl n p)
    | sleepUntil t p => exact .sleepUntil t (refl n p)
    | waitUntil t f => exact .waitUntil t fun b => refl n (f b)
    | draw f => exact .draw fun w => refl n (f w)
    | pause p => exact .pause (refl n p)
    | fork bs f => exact .fork bs fun rs => refl n (f rs)

/-- **What one request of agreeing programs does.** Programs that agree for one request more
both fork into the same branches, both give way, or neither does and a request of each is
answered alike: both wait or have ended, or both go on on the same machine, agreeing for one
request fewer. -/
theorem head {n : Nat} {p q : Program σ β τ} (h : Agree (n + 1) p q) :
    (∃ bs f g, p = .fork bs f ∧ q = .fork bs g ∧ ∀ rs, Agree n (f rs) (g rs)) ∨
    (∃ p' q', p = .pause p' ∧ q = .pause q' ∧ Agree n p' q') ∨
    ((∀ bs f, p ≠ .fork bs f) ∧ (∀ p', p ≠ .pause p') ∧ (∀ bs f, q ≠ .fork bs f) ∧
      (∀ q', q ≠ .pause q') ∧ ∀ m : Machine σ,
        (p.step m = none ∧ q.step m = none) ∨
        ∃ m' p' q', p.step m = some (m', p') ∧ q.step m = some (m', q') ∧ Agree n p' q') := by
  cases h with
  | fork bs h => exact .inl ⟨bs, _, _, rfl, rfl, h⟩
  | pause h => exact .inr (.inl ⟨_, _, rfl, rfl, h⟩)
  | finish => exact .inr (.inr ⟨by simp, by simp, by simp, by simp, fun m => .inl ⟨rfl, rfl⟩⟩)
  | settle => exact .inr (.inr ⟨by simp, by simp, by simp, by simp, fun m => .inl ⟨rfl, rfl⟩⟩)
  | observe h =>
    exact .inr (.inr ⟨by simp, by simp, by simp, by simp, fun m => .inr ⟨_, _, _, rfl, rfl, h _⟩⟩)
  | change f h =>
    exact .inr (.inr ⟨by simp, by simp, by simp, by simp, fun m => .inr ⟨_, _, _, rfl, rfl, h⟩⟩)
  | clock h =>
    exact .inr (.inr ⟨by simp, by simp, by simp, by simp, fun m => .inr ⟨_, _, _, rfl, rfl, h _⟩⟩)
  | emit s e h =>
    exact .inr (.inr ⟨by simp, by simp, by simp, by simp, fun m => .inr ⟨_, _, _, rfl, rfl, h⟩⟩)
  | isCancelled h =>
    exact .inr (.inr ⟨by simp, by simp, by simp, by simp, fun m => .inr ⟨_, _, _, rfl, rfl, h _⟩⟩)
  | cancel s h =>
    exact .inr (.inr ⟨by simp, by simp, by simp, by simp, fun m => .inr ⟨_, _, _, rfl, rfl, h⟩⟩)
  | draw h =>
    exact .inr (.inr ⟨by simp, by simp, by simp, by simp, fun m => .inr ⟨_, _, _, rfl, rfl, h _⟩⟩)
  | sleepUntil t h =>
    refine .inr (.inr ⟨by simp, by simp, by simp, by simp, fun m => ?_⟩)
    by_cases ht : t ≤ m.now
    · exact .inr ⟨m, _, _, by simp [step, ht], by simp [step, ht], h⟩
    · exact .inl ⟨by simp [step, ht], by simp [step, ht]⟩
  | waitUntil t h =>
    refine .inr (.inr ⟨by simp, by simp, by simp, by simp, fun m => ?_⟩)
    by_cases hc : m.cancelled = true
    · exact .inr ⟨m, _, _, by simp [step, hc], by simp [step, hc], h true⟩
    by_cases ht : t ≤ m.now
    · exact .inr ⟨m, _, _, by simp [step, hc, ht], by simp [step, hc, ht], h false⟩
    · exact .inl ⟨by simp [step, hc, ht], by simp [step, hc, ht]⟩

end Agree

end Program

namespace Thread

/-- Threads that agree for `n` requests of their main line: running programs that agree, or forks
with the same branches whose programs after the join agree. -/
inductive Agree : Nat → Thread σ β τ → Thread σ β τ → Prop
  | running {n : Nat} {p q : Program σ β τ} (h : p.Agree n q) : Agree n (.running p) (.running q)
  | forked {n : Nat} (bs : List (Thread σ β τ)) {f g : List β → Program σ β τ}
      (h : ∀ rs, (f rs).Agree n (g rs)) : Agree n (.forked bs f) (.forked bs g)

theorem Agree.mono {n k : Nat} {th th' : Thread σ β τ} (h : Agree n th th') (hk : k ≤ n) :
    Agree k th th' := by
  cases h with
  | running h => exact .running (h.mono hk)
  | forked bs h => exact .forked bs fun rs => (h rs).mono hk

/-- Threads that agree for a request have the same answer. -/
theorem Agree.answer? {n : Nat} {th th' : Thread σ β τ} (h : Agree (n + 1) th th') :
    th.answer? = th'.answer? := by
  cases h with
  | forked => rfl
  | running h =>
    cases h <;> rfl

/-- Threads that agree for a request wait for the same time. -/
theorem Agree.nextTime {γ : Type} {n : Nat} {th th' : Thread σ β τ} (h : Agree (n + 1) th th')
    (pending : List (Nat × γ)) : th.nextTime pending = th'.nextTime pending := by
  have hw : th.wakeTime = th'.wakeTime := by
    cases h with
    | forked => rfl
    | running h =>
      cases h <;> rfl
  simp only [Thread.nextTime, hw]

/-- **A pass over agreeing threads** moves the machine alike, moves both or neither, and leaves
threads that agree for as many requests fewer as the pass had fuel: a pass answers at most its
fuel in requests of the main line. -/
theorem advance_agree (fuel R : Nat) (m : Machine σ) (th th' : Thread σ β τ) (moved : Bool)
    (h : Agree (fuel + R) th th') :
    (advance fuel m th moved).1 = (advance fuel m th' moved).1 ∧
      (advance fuel m th moved).2.2 = (advance fuel m th' moved).2.2 ∧
      Agree R (advance fuel m th moved).2.1 (advance fuel m th' moved).2.1 := by
  induction fuel generalizing m th th' moved with
  | zero => simpa [advance] using h
  | succ fuel ih =>
    cases h with
    | forked bs h =>
      -- the branches are the same on both sides; only what follows the join differs
      rw [advance.eq_5, advance.eq_5]
      rcases hall : advanceAll fuel m bs with ⟨m', bs', mb⟩
      dsimp only
      cases hrs : settled? bs' with
      | some rs => exact ih m' _ _ true (.running ((h rs).mono (by omega)))
      | none => exact ⟨rfl, rfl, .forked bs' fun rs => (h rs).mono (by omega)⟩
    | running h =>
      rw [show fuel + 1 + R = (fuel + R) + 1 by omega] at h
      rcases h.head with ⟨bs, f, g, rfl, rfl, hfg⟩ | ⟨p', q', rfl, rfl, hpq⟩ |
        ⟨hfp, hpp, hfq, hpq, hstep⟩
      · rw [advance.eq_2, advance.eq_2]
        exact ih m _ _ true (.forked _ hfg)
      · rw [advance.eq_3, advance.eq_3]
        exact ⟨rfl, rfl, .running (hpq.mono (by omega))⟩
      · rw [advance.eq_4 _ _ _ _ hfp hpp, advance.eq_4 _ _ _ _ hfq hpq]
        rcases hstep m with ⟨hp, hq⟩ | ⟨m', p', q', hp, hq, hpq'⟩
        · -- both wait or have ended: the pass leaves them
          simp only [hp, hq, true_and]
          exact .running (h.mono (by omega))
        · simp only [hp, hq]
          exact ih m' _ _ true (.running hpq')

/-- Passes over agreeing threads until they rest go alike, each pass answering at most its fuel
in requests of the main line. -/
theorem quiesce_agree (passes fuel R : Nat) (m : Machine σ) (th th' : Thread σ β τ)
    (h : Agree (passes * fuel + R) th th') :
    (quiesce passes fuel m th).1 = (quiesce passes fuel m th').1 ∧
      (quiesce passes fuel m th).2.2 = (quiesce passes fuel m th').2.2 ∧
      Agree R (quiesce passes fuel m th).2.1 (quiesce passes fuel m th').2.1 := by
  induction passes generalizing m th th' with
  | zero => simpa [quiesce] using h
  | succ n ih =>
    rw [quiesce.eq_2, quiesce.eq_2]
    obtain ⟨hm, hmv, hth⟩ := advance_agree fuel (n * fuel + R) m th th' false
      (by rwa [show fuel + (n * fuel + R) = (n + 1) * fuel + R by rw [Nat.succ_mul]; omega])
    rcases ha : advance fuel m th false with ⟨m₁, th₁, mv⟩
    rcases ha' : advance fuel m th' false with ⟨m₁', th₁', mv'⟩
    rw [ha, ha'] at hm hmv hth
    dsimp only at hm hmv hth ⊢
    subst hm hmv
    cases mv with
    | true => exact ih m₁ th₁ th₁' hth
    | false => exact ⟨rfl, rfl, hth.mono (by omega)⟩

end Thread

namespace Machine

/-- The requests of the main line a run of the machine answers at most, and one more. -/
def reach : Nat := instantLimit * (passLimit * passFuel) + 1

/-- Threads that agree for as many requests as the instants left can answer are run alike. -/
theorem drive_agree (fuel : Nat) (m : Machine σ) (th th' : Thread σ β τ)
    (pending : List (Nat × Happening σ))
    (h : Thread.Agree (fuel * (passLimit * passFuel) + 1) th th') :
    drive fuel m th pending = drive fuel m th' pending := by
  induction fuel generalizing m th th' pending with
  | zero => rfl
  | succ fuel ih =>
    rw [drive.eq_2, drive.eq_2]
    obtain ⟨hm, hr, hth⟩ := Thread.quiesce_agree passLimit passFuel
      (fuel * (passLimit * passFuel) + 1) m th th'
      (by rwa [show passLimit * passFuel + (fuel * (passLimit * passFuel) + 1) =
        (fuel + 1) * (passLimit * passFuel) + 1 by rw [Nat.succ_mul]; omega])
    rcases hq : th.quiesce passLimit passFuel m with ⟨m₁, th₁, rested⟩
    rcases hq' : th'.quiesce passLimit passFuel m with ⟨m₁', th₁', rested'⟩
    rw [hq, hq'] at hm hr hth
    dsimp only at hm hr hth ⊢
    subst hm hr
    -- the threads left agree for at least one request: the same answer, the same wake time
    rw [hth.answer?, hth.nextTime]
    rcases th₁'.answer? with _ | a
    · dsimp only
      split
      · rfl
      · rcases m₁.happen pending with ⟨m₂, pending₂, any⟩
        dsimp only
        split
        · exact ih _ _ _ _ hth
        · split
          · exact ih _ _ _ _ hth
          · rfl
    · rfl

end Machine

namespace Program

/-- **Programs that agree for `reach` requests run alike on the machine**, from any machine with
any happenings: the machine never answers more requests of the main line. -/
theorem run_agree {p q : Program σ β τ} (h : p.Agree Machine.reach q) (m : Machine σ)
    (hs : List (Nat × Happening σ)) : p.run m hs = q.run m hs :=
  Machine.drive_agree instantLimit m _ _ _ (.running h)

/-- **Alike programs agree as far as their followers do**: the requests before a follower are
the same on both sides. -/
theorem Alike.agree {K K' : α → Program σ β τ} {p p' : Program σ β τ}
    (h : Alike (fun _ => True) K K' p p') {n : Nat} (hk : ∀ a, (K a).Agree n (K' a)) :
    p.Agree n p' := by
  induction h generalizing n with
  | hand a => exact hk a
  | observe _ ih =>
    cases n with
    | zero => exact .zero _ _
    | succ n => exact .observe fun w => ih w trivial fun a => (hk a).mono (by omega)
  | change hf _ ih =>
    cases n with
    | zero => exact .zero _ _
    | succ n => exact .change _ (ih fun a => (hk a).mono (by omega))
  | clock _ ih =>
    cases n with
    | zero => exact .zero _ _
    | succ n => exact .clock fun t => ih t fun a => (hk a).mono (by omega)
  | emit _ ih =>
    cases n with
    | zero => exact .zero _ _
    | succ n => exact .emit _ _ (ih fun a => (hk a).mono (by omega))
  | isCancelled _ ih =>
    cases n with
    | zero => exact .zero _ _
    | succ n => exact .isCancelled fun b => ih b fun a => (hk a).mono (by omega)
  | cancel _ ih =>
    cases n with
    | zero => exact .zero _ _
    | succ n => exact .cancel _ (ih fun a => (hk a).mono (by omega))
  | sleepUntil _ ih =>
    cases n with
    | zero => exact .zero _ _
    | succ n => exact .sleepUntil _ (ih fun a => (hk a).mono (by omega))
  | waitUntil _ ih =>
    cases n with
    | zero => exact .zero _ _
    | succ n => exact .waitUntil _ fun b => ih b fun a => (hk a).mono (by omega)
  | draw _ ih =>
    cases n with
    | zero => exact .zero _ _
    | succ n => exact .draw fun w => ih w fun a => (hk a).mono (by omega)
  | pause _ ih =>
    cases n with
    | zero => exact .zero _ _
    | succ n => exact .pause (ih fun a => (hk a).mono (by omega))
  | fork _ _ ih =>
    cases n with
    | zero => exact .zero _ _
    | succ n => exact .fork _ fun rs => ih rs fun a => (hk a).mono (by omega)

end Program

namespace Job

open Program

variable {s : Scope} {k : Except Fault γ → Program σ β τ} {n : Nat}

/-- A job that hands its value on, followed by jobs that agree for each value, agrees with
itself so followed. -/
theorem agree_bind {x : Job σ β τ α} (hx : Job.Natural (fun _ => True) x)
    {f f' : α → Job σ β τ γ} (h : ∀ a, ((f a).run s k).Agree n ((f' a).run s k)) :
    ((x >>= f).run s k).Agree n ((x >>= f').run s k) := by
  refine (hx s _ _).agree fun r => ?_
  cases r with
  | ok a => exact h a
  | error e => exact Agree.refl n _

/-- A job that throws agrees with itself whatever would have followed. -/
theorem agree_throw_bind {e : Fault} {f f' : α → Job σ β τ γ} :
    ((throw e >>= f).run s k).Agree n ((throw e >>= f').run s k) :=
  Agree.refl n _

/-- Asking whether the run was cancelled is one request on the main line. -/
theorem agree_isCancelled_bind {f f' : Bool → Job σ β τ γ}
    (h : ∀ b, ((f b).run s k).Agree n ((f' b).run s k)) :
    ((lift Exec.isCancelled >>= f).run s k).Agree (n + 1)
      ((lift Exec.isCancelled >>= f').run s k) :=
  .isCancelled h

/-- Drawing a random word is one request on the main line. -/
theorem agree_draw_bind {f f' : Nat → Job σ β τ γ}
    (h : ∀ w, ((f w).run s k).Agree n ((f' w).run s k)) :
    ((lift Exec.draw >>= f).run s k).Agree (n + 1) ((lift Exec.draw >>= f').run s k) :=
  .draw h

end Job

open Program Exec Job

namespace Poll

variable {check : Job σ β τ Bool} {config : PollConfig}

/-- Evaluation rounds with two bounds agree for as many requests as the smaller bound: each
round begins by asking whether the run was cancelled. -/
theorem rounds_agree (hcheck : Job.Natural (fun _ => True) check) (s : Scope)
    (k : Except Fault PollResult → Program σ β τ) :
    ∀ dryRun d n n' t due, d ≤ n → d ≤ n' →
      ((rounds check config dryRun n t due).run s k).Agree d
        ((rounds check config dryRun n' t due).run s k)
  | _, 0, _, _, _, _, _, _ => .zero _ _
  | _, _ + 1, 0, _, _, _, hn, _ => absurd hn (by omega)
  | _, _ + 1, _ + 1, 0, _, _, _, hn' => absurd hn' (by omega)
  | dryRun, d + 1, n + 1, n' + 1, t, due, hn, hn' => by
    rw [rounds.eq_2, rounds.eq_2]
    refine agree_isCancelled_bind fun b => ?_
    cases b with
    | true => simp only [↓reduceIte]; exact Agree.refl d _
    | false =>
      refine agree_bind hcheck fun holds => ?_
      cases holds with
      | true => simp only [↓reduceIte]; exact Agree.refl d _
      | false =>
        cases dryRun with
        | true => simp only [↓reduceIte]; exact Agree.refl d _
        | false =>
          -- only the rounds after the sleep differ
          refine agree_bind (natural_lift (natural_say _)) fun _ =>
            agree_bind (natural_lift natural_now) fun now =>
              agree_bind (natural_lift (natural_pause config _ _ _ _)) fun slept => ?_
          cases slept with
          | cancelled t => dsimp only; exact Agree.refl d _
          | woke t due => exact rounds_agree hcheck s k false d n n' t due (by omega) (by omega)

/-- **Raising the bound of a wait past `roundBound` changes no run of the machine**, whatever
follows the wait: the machine never reaches the last round. -/
theorem run_rounds_past_bound (hcheck : Job.Natural (fun _ => True) check) (dryRun : Bool)
    {N : Nat}
    (hN : roundBound ≤ N) (t : Tally) (due : Option Nat) (s : Scope)
    (k : Except Fault PollResult → Program σ β τ) (m : Machine σ)
    (hs : List (Nat × Happening σ)) :
    ((rounds check config dryRun N t due).run s k).run m hs =
      ((rounds check config dryRun roundBound t due).run s k).run m hs := by
  have hreach : Machine.reach ≤ roundBound := by decide
  exact run_agree (rounds_agree hcheck s k dryRun _ N roundBound t due (by omega) hreach) m hs

end Poll

namespace Retry

variable {call : Job σ β τ α} {policy : RetryPolicy} {operation : String}

/-- Attempts with two bounds agree for as many requests as the smaller bound: each retry draws a
random word. -/
theorem attempts_agree (hcall : Job.Natural (fun _ => True) call) (s : Scope)
    (k : Except Fault α → Program σ β τ) :
    ∀ d n n' attempt last, d ≤ n → d ≤ n' →
      ((attempts policy operation call n attempt last).run s k).Agree d
        ((attempts policy operation call n' attempt last).run s k)
  | 0, _, _, _, _, _, _ => .zero _ _
  | _ + 1, 0, _, _, _, hn, _ => absurd hn (by omega)
  | _ + 1, _ + 1, 0, _, _, _, hn' => absurd hn' (by omega)
  | d + 1, n + 1, n' + 1, attempt, last, hn, hn' => by
    rw [attempts.eq_2, attempts.eq_2]
    refine agree_bind (natural_lift (natural_attempt hcall)) fun r => ?_
    cases r with
    | ok v => dsimp only; exact Agree.refl _ _
    | error e =>
      dsimp only
      split
      · exact agree_throw_bind
      · split
        · exact agree_bind (natural_lift (natural_say _)) fun _ => agree_throw_bind
        · -- only the attempts after the backoff differ
          refine agree_draw_bind fun word => ?_
          refine agree_bind (natural_lift (natural_say _)) fun _ =>
            agree_bind (Job.natural_sleepFor _) fun _ => ?_
          exact attempts_agree hcall s k d n n' _ _ (by omega) (by omega)

/-- **Raising the bound of a retry loop past `attemptBound` changes no run of the machine**,
whatever follows the loop: the machine never reaches the last attempt. -/
theorem run_attempts_past_bound (hcall : Job.Natural (fun _ => True) call) {N : Nat}
    (hN : attemptBound ≤ N) (attempt : Nat) (last : Option Fault) (s : Scope)
    (k : Except Fault α → Program σ β τ) (m : Machine σ) (hs : List (Nat × Happening σ)) :
    ((attempts policy operation call N attempt last).run s k).run m hs =
      ((attempts policy operation call attemptBound attempt last).run s k).run m hs := by
  have hreach : Machine.reach ≤ attemptBound := by decide
  exact run_agree (attempts_agree hcall s k _ N attemptBound attempt last (by omega) hreach) m hs

end Retry

end Rollout
