import Mathlib
import Rollout.Poll
import Rollout.Proofs.Yields
/-!
# Waits among any happenings

A lone program that waits until `w` lets the happenings due take place as the clock moves
(`Machine.await`); a wait that cancellation may cut short stops at the first instant the run
is cancelled. Such a wait is known by where it ends, whatever happens around it:

* a wait split at an earlier time ends where the whole wait ends (`await_await`): the part
  before the split stops where the whole stops if it was cancelled, and otherwise the rest goes
  on from it to the same end, since a happening at the split instant takes place when the rest
  begins;
* the journal is only written, never read: machines alike but for their journals wait alike
  (`Like.await`).

The sleep of a wait for a condition is a chain of such waits, one up to each notice that falls
due. It ends as one wait until its end would (`Poll.pause_waitTill`): cut short at the same
instant, or woken at its end with the same world and the same happenings still to come.

* `Poll.pause_waitTill`: **a sleep with notices ends where a single wait until its end ends**,
  among any happenings.
-/

namespace Rollout

variable {σ β τ : Type}

namespace Machine

/-- Two machines alike but for their journals: a program reads the same of both. -/
structure Like (m m' : Machine σ) : Prop where
  world : m.world = m'.world
  now : m.now = m'.now
  cancelled : m.cancelled = m'.cancelled
  entropy : m.entropy = m'.entropy

namespace Like

variable {m m' m'' : Machine σ}

theorem refl (m : Machine σ) : Like m m := ⟨rfl, rfl, rfl, rfl⟩

theorem trans (h : Like m m') (h' : Like m' m'') : Like m m'' :=
  ⟨h.world.trans h'.world, h.now.trans h'.now, h.cancelled.trans h'.cancelled,
    h.entropy.trans h'.entropy⟩

/-- Writing the journals keeps machines alike. -/
theorem journal (h : Like m m') (j j' : Array (Scope × Event)) :
    Like { m with journal := j } { m' with journal := j' } :=
  ⟨h.world, h.now, h.cancelled, h.entropy⟩

theorem journal_self (m : Machine σ) (j : Array (Scope × Event)) :
    Like m { m with journal := j } :=
  ⟨rfl, rfl, rfl, rfl⟩

/-- Moving the clocks to one time keeps machines alike. -/
theorem clock (h : Like m m') (n : Nat) : Like { m with now := n } { m' with now := n } :=
  ⟨h.world, rfl, h.cancelled, h.entropy⟩

theorem cancel (h : Like m m') (s s' : Scope) : Like (m.cancel s) (m'.cancel s') := by
  unfold Machine.cancel
  by_cases hm : m.cancelled = true
  · rw [if_pos hm, if_pos (by rwa [← h.cancelled])]
    exact h
  · rw [if_neg hm, if_neg (by rwa [← h.cancelled])]
    exact ⟨h.world, h.now, rfl, h.entropy⟩

theorem apply (h : Like m m') (e : Happening σ) : Like (m.apply e) (m'.apply e) := by
  cases e with
  | cancel => exact h.cancel [] []
  | interrupt => exact (h.journal _ _).cancel [] []
  | change f => exact ⟨by simp [Machine.apply, h.world], h.now, h.cancelled, h.entropy⟩

/-- Machines alike wait alike, whatever happens meanwhile. -/
theorem await (h : Like m m') (w : Nat) (i : Bool) (hs : List (Nat × Happening σ)) :
    Like (m.await w i hs).1 (m'.await w i hs).1 ∧ (m.await w i hs).2 = (m'.await w i hs).2 := by
  induction hs generalizing m m' with
  | nil =>
    unfold Machine.await
    by_cases hc : (i && m.cancelled) = true
    · have hc' : (i && m'.cancelled) = true := by rwa [← h.cancelled]
      rw [if_pos hc, if_pos hc']
      exact ⟨h, rfl⟩
    · have hc' : ¬(i && m'.cancelled) = true := by rwa [← h.cancelled]
      rw [if_neg hc, if_neg hc', ← h.now]
      exact ⟨h.clock _, rfl⟩
  | cons x rest ih =>
    obtain ⟨t, e⟩ := x
    unfold Machine.await
    by_cases h1 : t ≤ m.now
    · have h1' : t ≤ m'.now := by rwa [← h.now]
      rw [if_pos h1, if_pos h1']
      exact ih (h.apply e)
    · have h1' : ¬t ≤ m'.now := by rwa [← h.now]
      rw [if_neg h1, if_neg h1']
      by_cases hc : (i && m.cancelled) = true
      · have hc' : (i && m'.cancelled) = true := by rwa [← h.cancelled]
        rw [if_pos hc, if_pos hc']
        exact ⟨h, rfl⟩
      · have hc' : ¬(i && m'.cancelled) = true := by rwa [← h.cancelled]
        rw [if_neg hc, if_neg hc']
        by_cases h2 : w ≤ t
        · rw [if_pos h2, if_pos h2, ← h.now]
          exact ⟨h.clock _, rfl⟩
        · rw [if_neg h2, if_neg h2]
          exact ih ((h.clock t).apply e)

end Like

/-- A wait that cancellation may cut short ends, when not cut short, at its time. -/
theorem await_now {w : Nat} {m : Machine σ} {hs : List (Nat × Happening σ)}
    (h : (m.await w true hs).1.cancelled = false) : (m.await w true hs).1.now = max w m.now := by
  induction hs generalizing m with
  | nil =>
    unfold await at h ⊢
    by_cases hc : (true && m.cancelled) = true
    · rw [if_pos hc] at h
      simp_all
    · rw [if_neg hc]
  | cons x rest ih =>
    obtain ⟨t, e⟩ := x
    unfold await at h ⊢
    by_cases h1 : t ≤ m.now
    · rw [if_pos h1] at h ⊢
      rw [ih h, apply_now]
    · rw [if_neg h1] at h ⊢
      by_cases hc : (true && m.cancelled) = true
      · rw [if_pos hc] at h
        simp_all
      · rw [if_neg hc] at h ⊢
        by_cases h2 : w ≤ t
        · rw [if_pos h2]
        · rw [if_neg h2] at h ⊢
          rw [ih h, apply_now]
          simp only
          omega

/-- **A wait split at an earlier time ends where the whole wait ends**: cut short where the
whole is, or, when not cut short, going on from the split to the same end. -/
theorem await_await {t w : Nat} (htw : t < w) (m : Machine σ) (hs : List (Nat × Happening σ)) :
    ((m.await t true hs).1.cancelled = true → m.await w true hs = m.await t true hs) ∧
    ((m.await t true hs).1.cancelled = false →
      (m.await t true hs).1.await w true (m.await t true hs).2 = m.await w true hs) := by
  induction hs generalizing m with
  | nil =>
    cases hc : m.cancelled with
    | true => simp [await, hc]
    | false =>
      refine ⟨fun h => by simp [await, hc] at h, fun _ => ?_⟩
      simp only [await, hc, Bool.and_false, Bool.false_eq_true, if_false, Prod.mk.injEq, and_true]
      congr 1
      omega
  | cons x rest ih =>
    obtain ⟨th, e⟩ := x
    by_cases h1 : th ≤ m.now
    · simp only [await, if_pos h1]
      exact ih (m.apply e)
    · cases hc : m.cancelled with
      | true => simp [await, h1, hc]
      | false =>
        by_cases h2 : t ≤ th
        · -- the first part stops at `t`, before `th` takes place
          have e₁ : m.await t true ((th, e) :: rest) =
              ({ m with now := max t m.now }, (th, e) :: rest) := by
            simp [await, h1, hc, h2]
          rw [e₁]
          refine ⟨fun h => by simp [hc] at h, fun _ => ?_⟩
          by_cases h3 : th = t
          · -- a happening at the split instant takes place as the rest begins
            subst h3
            have hmax : max th m.now = th := by omega
            simp [await, h1, hc, hmax, show ¬w ≤ th by omega]
          · have h4 : ¬th ≤ max t m.now := by omega
            by_cases h5 : w ≤ th
            · simp only [await, if_neg h4, if_neg h1, hc, Bool.and_false, Bool.false_eq_true,
                if_false, if_pos h5, Prod.mk.injEq, and_true]
              congr 1
              omega
            · simp [await, h4, h1, hc, h5]
        · have e₁ : m.await t true ((th, e) :: rest) =
              ({ m with now := th }.apply e).await t true rest := by
            simp [await, h1, hc, h2]
          have e₂ : m.await w true ((th, e) :: rest) =
              ({ m with now := th }.apply e).await w true rest := by
            simp [await, h1, hc, show ¬w ≤ th by omega]
          rw [e₁, e₂]
          exact ih _

/-- A wait until `w` that cancellation may cut short, on a run not yet cancelled, as a lone
program waits: none if the time has come, and otherwise the happenings due take place as the
clock moves until `w` or the first instant the run is cancelled. -/
def waitTill (m : Machine σ) (w : Nat) (hs : List (Nat × Happening σ)) :
    Machine σ × List (Nat × Happening σ) :=
  if w ≤ m.now then (m, hs) else m.await w true hs

theorem waitTill_of_le {m : Machine σ} {w : Nat} (h : w ≤ m.now) (hs : List (Nat × Happening σ)) :
    m.waitTill w hs = (m, hs) := if_pos h

theorem waitTill_of_lt {m : Machine σ} {w : Nat} (h : m.now < w) (hs : List (Nat × Happening σ)) :
    m.waitTill w hs = m.await w true hs := if_neg (Nat.not_le.2 h)

theorem Like.waitTill {m m' : Machine σ} (h : Like m m') (w : Nat) (hs : List (Nat × Happening σ)) :
    Like (m.waitTill w hs).1 (m'.waitTill w hs).1 ∧ (m.waitTill w hs).2 = (m'.waitTill w hs).2 := by
  unfold Machine.waitTill
  rw [← h.now]
  split
  · exact ⟨h, rfl⟩
  · exact h.await w true hs

/-- A wait begun after writing the journal ends alike, with the same happenings to come. -/
theorem Like.of_waitTill_journal {m m' : Machine σ} {j : Array (Scope × Event)} {w : Nat}
    {hs : List (Nat × Happening σ)} (h : Like ({ m with journal := j }.waitTill w hs).1 m') :
    Like (m.waitTill w hs).1 m' :=
  ((Like.journal_self m j).waitTill w hs).1.trans h

theorem waitTill_journal_snd (m : Machine σ) (j : Array (Scope × Event)) (w : Nat)
    (hs : List (Nat × Happening σ)) :
    ({ m with journal := j }.waitTill w hs).2 = (m.waitTill w hs).2 :=
  ((Like.journal_self m j).waitTill w hs).2.symm

/-- A wait until the same time from a machine alike, begun after writing the journal, ends
alike, with the same happenings to come. -/
theorem Like.waitTill_journal {m m' m'' : Machine σ} {j : Array (Scope × Event)} {w w' : Nat}
    {hs hs' : List (Nat × Happening σ)} (hm : Like m m') (hw : w = w')
    (h : Like ({ m' with journal := j }.waitTill w' hs).1 m'')
    (hh : hs' = ({ m' with journal := j }.waitTill w' hs).2) :
    Like (m.waitTill w hs).1 m'' ∧ hs' = (m.waitTill w hs).2 := by
  subst hw
  exact ⟨(hm.waitTill w hs).1.trans (Like.of_waitTill_journal h),
    hh.trans ((waitTill_journal_snd m' j w hs).trans (hm.waitTill w hs).2.symm)⟩

/-- A wait until `w` not cut short ends at `w`. -/
theorem waitTill_now {m : Machine σ} {w : Nat} {hs : List (Nat × Happening σ)} (hw : m.now ≤ w)
    (h : (m.waitTill w hs).1.cancelled = false) : (m.waitTill w hs).1.now = w := by
  unfold waitTill at h ⊢
  split
  · next hle =>
    show m.now = w
    omega
  · next hlt =>
    rw [if_neg hlt] at h
    rw [await_now h]
    omega

end Machine

/-- On a run not cancelled, a wait that cancellation may cut short is one `waitTill`: it answers
whether the machine it leaves is cancelled. -/
theorem Exec.yields_waitUntil_waitTill {m : Machine σ} {w : Nat} {hs : List (Nat × Happening σ)}
    {s : Scope} {Q : Post σ Bool} (hc : m.cancelled = false)
    (h : Q (m.waitTill w hs).1.cancelled (m.waitTill w hs).1 (m.waitTill w hs).2) :
    (Exec.waitUntil w : Exec σ β τ Bool).Yields s m hs Q := by
  apply Exec.yields_waitUntil
  rw [if_neg (by simp [hc])]
  split
  · next hle =>
    rw [Machine.waitTill_of_le hle, hc] at h
    exact h
  · next hlt =>
    rw [Machine.waitTill_of_lt (Nat.lt_of_not_le hlt)] at h
    exact h

namespace Poll

open Machine

/-- The notice due is after `t`, and notices are written at all. -/
def Pending (config : PollConfig) (due : Option Nat) (t : Nat) : Prop :=
  ∀ n, due = some n → t < n ∧ config.statusInterval.isSome

section Sleep

variable {config : PollConfig} {s : Scope} {wake : Nat}

/-- **A sleep with notices ends where a single wait until its end ends**, among any happenings:
cut short at the same instant, or woken with the same world and the same happenings to come,
and the next notice still pending. Each round writes at most one notice, and notices are a
millisecond apart at least, so one round more than the milliseconds of the sleep suffices. -/
theorem pause_waitTill (hp : ∀ p, config.statusInterval = some p → 0 < p) :
    ∀ fuel (t : Tally) due (m : Machine σ) (hs : List (Nat × Happening σ)), m.now ≤ wake →
      wake - m.now < fuel → m.cancelled = false → Pending config due m.now →
      (pause config wake fuel t due : Exec σ β τ Slept).Yields s m hs fun r m' hs' =>
        Like (m.waitTill wake hs).1 m' ∧ hs' = (m.waitTill wake hs).2 ∧
        match r with
        | .cancelled _ => m'.cancelled = true
        | .woke _ due' => m'.cancelled = false ∧ Pending config due' m'.now
  | 0, _, _, _, _, _, hf, _, _ => absurd hf (Nat.not_lt_zero _)
  | fuel + 1, t, none, m, hs, hnw, _, hc, _ => by
    -- without a notice due the sleep is one wait
    rw [pause.eq_3]
    apply Exec.Yields.bind
    apply Exec.yields_waitUntil_waitTill hc
    cases hc' : (m.waitTill wake hs).1.cancelled with
    | true => exact Exec.yields_pure ⟨Like.refl _, rfl, hc'⟩
    | false => exact Exec.yields_pure ⟨Like.refl _, rfl, hc', fun _ h => by cases h⟩
  | fuel + 1, t, some n, m, hs, hnw, hf, hc, hdue => by
    obtain ⟨hn, hsi⟩ := hdue n rfl
    obtain ⟨p, hsi⟩ := Option.isSome_iff_exists.1 hsi
    rw [pause.eq_2]
    simp only [hsi]
    by_cases hnw' : n ≤ wake
    · -- the notice falls due within the sleep: the sleep waits for it first
      rw [Nat.min_eq_left hnw']
      apply Exec.Yields.bind
      apply Exec.yields_waitUntil
      rw [if_neg (by simp [hc]), if_neg (by omega), waitTill_of_lt (by omega)]
      cases hc₁ : (m.await n true hs).1.cancelled with
      | true =>
        -- cut short before the notice: where the whole wait is cut short
        apply Exec.yields_pure
        have e : m.await wake true hs = m.await n true hs := by
          rcases Nat.lt_or_eq_of_le hnw' with hlt | rfl
          · exact (await_await hlt m hs).1 hc₁
          · rfl
        rw [e]
        exact ⟨Like.refl _, rfl, hc₁⟩
      | false =>
        -- the notice is written, and the sleep goes on from it
        have hnow₁ : (m.await n true hs).1.now = n := by
          rw [await_now hc₁]
          omega
        simp only [Bool.false_eq_true, if_false, Nat.le_refl, if_true]
        apply Exec.Yields.bind
        apply Exec.yields_now
        apply Exec.Yields.bind
        apply Exec.yields_say
        refine (pause_waitTill hp fuel _ (some (n + p)) _ _ (by simpa [hnow₁] using hnw')
          (by simp only [hnow₁]; omega) (by simpa using hc₁) ?_).mono
          fun r m' hs' ⟨hlike, hhs, hend⟩ => ?_
        · intro k hk
          cases hk
          exact ⟨by simp only [hnow₁]; have := hp p hsi; omega, by simp [hsi]⟩
        · -- the rest of the sleep ends where the whole does
          have hrest : (m.await n true hs).1.waitTill wake (m.await n true hs).2 =
              m.await wake true hs := by
            rcases Nat.lt_or_eq_of_le hnw' with hlt | rfl
            · rw [waitTill_of_lt (by omega)]
              exact (await_await hlt m hs).2 hc₁
            · rw [waitTill_of_le (by omega)]
          rw [← hrest]
          exact ⟨Like.of_waitTill_journal hlike, hhs.trans (waitTill_journal_snd _ _ _ _), hend⟩
    · -- the sleep ends before the notice falls due: it is one wait
      rw [Nat.min_eq_right (by omega)]
      apply Exec.Yields.bind
      apply Exec.yields_waitUntil_waitTill hc
      cases hc₁ : (m.waitTill wake hs).1.cancelled with
      | true => exact Exec.yields_pure ⟨Like.refl _, rfl, hc₁⟩
      | false =>
        -- woken at its end, before the notice falls due
        simp only [Bool.false_eq_true, if_false]
        rw [if_neg hnw']
        apply Exec.yields_pure
        refine ⟨Like.refl _, rfl, hc₁, fun k hk => ?_⟩
        cases hk
        exact ⟨by rw [waitTill_now hnw hc₁]; omega, by simp [hsi]⟩

end Sleep

end Poll

end Rollout
