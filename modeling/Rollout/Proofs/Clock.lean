import Mathlib
import Rollout.Proofs.Timed
/-!
# The machine keeps to timed runs

When the machine answers a program that has a timed run, started uncancelled with nothing to
happen from outside, it answers as the run says: with the run's answer, at the time the run ends,
the world changed by the run's changes in some order.

Between passes the machine moves its clock on to the earliest time a thread waits for, and a
thread's timed run survives that move. One kind of thread escapes: a pass answers a bounded number
of requests, so a branch buried deeper under forks than a pass can reach never moves, and the
thread it is in never answers. `Thread.Deep` names such threads; the machine gives them no answer
(`Machine.drive_deep`), and for every other thread the clock never passes the time its run wakes
at (`Thread.rested_runs`).

* `Machine.drive_runs`, `Program.run_runs`: **the machine keeps to the timed run**.
-/

namespace Rollout

variable {σ β τ : Type}

namespace Thread

open Program


/-- A thread that has not settled. -/
def Unsettled (th : Thread σ β τ) : Prop := ∀ b, th ≠ .running (.settle b)

/-- An unsettled branch lies `k` or more forks deep: a pass that may answer fewer than `k`
requests never reaches it. -/
def Deep : Nat → Thread σ β τ → Prop
  | 0, th => th.Unsettled
  | _ + 1, .running _ => False
  | k + 1, .forked bs _ => ∃ b ∈ bs, Deep k b

theorem Deep.unsettled {k : Nat} {th : Thread σ β τ} (h : th.Deep k) : th.Unsettled := by
  cases k with
  | zero => exact h
  | succ k =>
    cases th with
    | running p => exact h.elim
    | forked bs next => exact fun _ he => nomatch he

/-- Branches among which one lies deep have not all settled. -/
theorem settled?_of_deep {k : Nat} {bs : List (Thread σ β τ)} {b : Thread σ β τ} (hb : b ∈ bs)
    (h : b.Deep k) : settled? bs = none := by
  induction bs with
  | nil => cases hb
  | cons c rest ih =>
    rcases List.mem_cons.1 hb with rfl | hrest
    · cases hc : b with
      | running p =>
        cases p with
        | settle r => exact absurd hc (h.unsettled r)
        | _ => rfl
      | forked _ _ => rfl
    · cases c with
      | running p =>
        cases p with
        | settle r => simp [settled?, ih hrest]
        | _ => rfl
      | forked _ _ => rfl

/-- **A pass leaves a deep branch where it is**, and deep. -/
theorem advance_deep (fuel : Nat) (m : Machine σ) (th : Thread σ β τ) (moved : Bool)
    (h : th.Deep fuel) : (advance fuel m th moved).2.1.Deep fuel := by
  revert h
  refine advance.induct
    (fun fuel m th moved => th.Deep fuel → (advance fuel m th moved).2.1.Deep fuel)
    (fun fuel m bs => (∃ b ∈ bs, b.Deep fuel) → ∃ b ∈ (advanceAll fuel m bs).2.1, b.Deep fuel)
    ?_ ?_ ?_ ?_ ?_ ?_ ?_ ?_ ?_ fuel m th moved
  · intro m th moved h; simpa [advance] using h
  · intro m moved fuel bs next _ h; exact h.elim
  · intro m moved fuel next h; exact h.elim
  · intro m moved fuel p _ _ _ h; exact h.elim
  · intro m moved fuel p _ _ _ _ _ _ h; exact h.elim
  · -- a deep branch keeps its fork from joining
    intro m moved fuel bs next m' bs' mb hall rs hrs ihall _ h
    obtain ⟨b, hb, hd⟩ := ihall h
    rw [hall] at hb
    rw [settled?_of_deep hb hd] at hrs
    cases hrs
  · intro m moved fuel bs next m' bs' mb hall hrs ihall h
    rw [advance.eq_5, hall]
    simp only [hrs]
    have hb := ihall h
    rw [hall] at hb
    exact hb
  · intro fuel m h; simp at h
  · intro fuel m th rest m' th' mv h1 m'' rest' mr h2 ih1 ih2 h
    rw [advanceAll.eq_2, h1]
    simp only [h2]
    rcases h with ⟨b, hb, hd⟩
    rcases List.mem_cons.1 hb with rfl | hb
    · have := ih1 hd
      rw [h1] at this
      exact ⟨_, List.mem_cons_self, this⟩
    · obtain ⟨c, hc, hcd⟩ := ih2 ⟨b, hb, hd⟩
      rw [h2] at hc
      exact ⟨c, List.mem_cons_of_mem _ hc, hcd⟩

theorem quiesce_deep (passes fuel : Nat) (m : Machine σ) (th : Thread σ β τ) (h : th.Deep fuel) :
    (quiesce passes fuel m th).2.1.Deep fuel := by
  induction passes generalizing m th with
  | zero => simpa [quiesce] using h
  | succ n ih =>
    rw [quiesce.eq_2]
    have hd := advance_deep fuel m th false h
    rcases hp : advance fuel m th false with ⟨m1, th1, moved⟩
    rw [hp] at hd
    cases moved with
    | true => exact ih m1 th1 hd
    | false => exact hd

/-! ### Time moving on -/

/-- Branches that have not all settled have one that has not. -/
theorem exists_unsettled {bs : List (Thread σ β τ)} (h : settled? bs = none) :
    ∃ b ∈ bs, b.Unsettled := by
  induction bs with
  | nil => simp [settled?] at h
  | cons c rest ih =>
    by_cases hc : c.Unsettled
    · exact ⟨c, List.mem_cons_self, hc⟩
    · obtain ⟨r, rfl⟩ : ∃ r, c = .running (.settle r) :=
        Classical.byContradiction fun hs => hc fun r hr => hs ⟨r, hr⟩
      simp only [settled?, Option.map_eq_none_iff] at h
      obtain ⟨b, hb, hbu⟩ := ih h
      exact ⟨b, List.mem_cons_of_mem _ hb, hbu⟩

/-- A pass that moves nothing over a fork moves nothing in any of its branches. -/
theorem advanceAll_rested {fuel : Nat} {m : Machine σ} {bs : List (Thread σ β τ)}
    (h : (advanceAll fuel m bs).2.2 = false) : ∀ b ∈ bs, (advance fuel m b false).2.2 = false := by
  induction bs generalizing m with
  | nil => intro b hb; cases hb
  | cons c rest ih =>
    rw [advanceAll.eq_2] at h
    rcases h1 : advance fuel m c false with ⟨m', c', mv⟩
    rcases h2 : advanceAll fuel m' rest with ⟨m'', rest', mr⟩
    simp only [h1, h2, Bool.or_eq_false_iff] at h
    obtain ⟨rfl, rfl⟩ := h
    -- the first branch did not move, so the others were passed over on the same machine
    have e := advance_rested fuel m c false (by rw [h1])
    rw [h1] at e
    cases e
    intro b hb
    rcases List.mem_cons.1 hb with rfl | hb
    · rw [h1]
    · exact ih (by rw [h2]) b hb

/-- The earliest wake time of branches is at most that of each of them. -/
theorem earliest_le {n : Nat} {bs : List (Thread σ β τ)}
    (h : ∀ w, wakeTime.earliest bs = some w → n ≤ w) :
    ∀ b ∈ bs, ∀ w, b.wakeTime = some w → n ≤ w := by
  induction bs with
  | nil => intro b hb; cases hb
  | cons c rest ih =>
    intro b hb w hw
    rw [wakeTime.earliest] at h
    rcases List.mem_cons.1 hb with rfl | hb
    · rw [hw] at h
      cases hr : wakeTime.earliest rest with
      | none => exact h w (by rw [hr])
      | some x => exact Nat.le_trans (h _ (by rw [hr])) (Nat.min_le_left _ _)
    · refine ih (fun x hx => ?_) b hb w hw
      cases hc : c.wakeTime with
      | none => exact h x (by rw [hc, hx])
      | some y => exact Nat.le_trans (h _ (by rw [hc, hx])) (Nat.min_le_right _ _)

/-- Branches that run on from a later start as from the earlier one settle no earlier than it,
and the last of them settles when it did, if one of them had not settled yet. -/
theorem RunsAll.shift {n n' : Nat} (hn : n ≤ n') {bs : List (Thread σ β τ)}
    (hb : ∀ b ∈ bs, ∀ {r : β} {t₁ : Nat} {l : Changes σ}, Runs n b.program (.inl r) t₁ l →
      Runs n' b.program (.inl r) (max t₁ n') l ∧ (b.Unsettled → n' ≤ t₁))
    {rs : List β} {u : Nat} {ls : Changes σ} (h : RunsAll n (bs.map program) rs u ls) :
    RunsAll n' (bs.map program) rs (max u n') ls ∧ ((∃ b ∈ bs, b.Unsettled) → n' ≤ u) := by
  induction bs generalizing rs u ls with
  | nil =>
    cases h
    exact ⟨by simpa [Nat.max_eq_right hn] using RunsAll.nil, fun ⟨_, hb, _⟩ => nomatch hb⟩
  | cons b rest ih =>
    cases h with
    | @cons _ t₁ u' _ _ _ _ _ _ h₁ hs =>
      obtain ⟨h₁', hu₁⟩ := hb b List.mem_cons_self h₁
      obtain ⟨hs', hus⟩ := ih (fun c hc => hb c (List.mem_cons_of_mem _ hc)) hs
      have e : max (max t₁ u') n' = max (max t₁ n') (max u' n') := by omega
      refine ⟨by rw [e]; exact .cons h₁' hs', ?_⟩
      rintro ⟨c, hc, hcu⟩
      rcases List.mem_cons.1 hc with rfl | hc
      · exact Nat.le_trans (hu₁ hcu) (Nat.le_max_left _ _)
      · exact Nat.le_trans (hus ⟨c, hc, hcu⟩) (Nat.le_max_right _ _)

/-- A wait for a time past both the old and the new time goes on at that time either way, and
ends after the new time. -/
theorem runs_after_wait {w n n' t₁ : Nat} {p : Program σ β τ} {z : β ⊕ τ} {L : Changes σ}
    (hs : n < w) (hnw : n' ≤ w) (h : Runs (max w n) p z t₁ L) :
    Runs (max w n') p z t₁ L ∧ n' ≤ t₁ ∧ max t₁ n' = t₁ := by
  rw [Nat.max_eq_left (Nat.le_of_lt hs)] at h
  have ht : n' ≤ t₁ := Nat.le_trans hnw h.le
  exact ⟨by rwa [Nat.max_eq_left hnw], ht, Nat.max_eq_left ht⟩

/-- **Time moving on while a thread rests leaves its timed run as it was**: every branch that
has not ended waits past the new time, so it goes on when it would have; a branch that has
settled settles again at the new time, and its fork still joins with the last of its branches. -/
theorem rested_runs (fuel : Nat) {m : Machine σ} {th : Thread σ β τ}
    (hr : (advance fuel m th false).2.2 = false) (hd : ¬ th.Deep fuel)
    (hc : m.cancelled = false) {n' : Nat} (hn : m.now ≤ n')
    (hw : ∀ w, th.wakeTime = some w → n' ≤ w) {z : β ⊕ τ} {t₁ : Nat} {L : Changes σ}
    (h : Runs m.now th.program z t₁ L) :
    Runs n' th.program z (max t₁ n') L ∧
      (th.Unsettled → (∀ a, th ≠ .running (.finish a)) → n' ≤ t₁) := by
  induction fuel generalizing th z t₁ L with
  | zero =>
    -- only a settled thread lies within no requests of the pass
    obtain ⟨b, rfl⟩ : ∃ b, th = .running (.settle b) :=
      Classical.byContradiction fun hs => hd fun b hb => hs ⟨b, hb⟩
    cases h
    exact ⟨by rw [Nat.max_eq_right hn]; exact .settle, fun hu => absurd rfl (hu b)⟩
  | succ fuel ih =>
    cases th with
    | running p =>
      -- a running program at rest has ended or waits past now
      have hs : p.step m = none := by
        cases hp : p.step m with
        | none => rfl
        | some r =>
          obtain ⟨m', p'⟩ := r
          have hf : ∀ bs next, p = .fork bs next → False := by
            rintro bs next rfl; simp [Program.step] at hp
          have hpa : ∀ next, p = .pause next → False := by
            rintro next rfl; simp [Program.step] at hp
          rw [advance.eq_4 _ _ _ _ hf hpa, hp, advance_true _ _ _ _ rfl] at hr
          cases hr
      cases p with
      | finish a =>
        cases h
        exact ⟨by rw [Nat.max_eq_right hn]; exact .finish, fun _ hf => absurd rfl (hf a)⟩
      | settle b =>
        cases h
        exact ⟨by rw [Nat.max_eq_right hn]; exact .settle, fun hu => absurd rfl (hu b)⟩
      | sleepUntil w next =>
        simp only [Program.step, ite_eq_right_iff, reduceCtorEq, imp_false, Nat.not_le] at hs
        cases h with
        | sleepUntil hn' =>
          obtain ⟨h', ht, hmax⟩ := runs_after_wait hs (hw w rfl) hn'
          exact ⟨by rw [hmax]; exact .sleepUntil h', fun _ _ => ht⟩
      | waitUntil w next =>
        simp only [Program.step, hc, Bool.false_eq_true, if_false, ite_eq_right_iff, reduceCtorEq,
          imp_false, Nat.not_le] at hs
        cases h with
        | waitUntil hn' =>
          obtain ⟨h', ht, hmax⟩ := runs_after_wait hs (hw w rfl) hn'
          exact ⟨by rw [hmax]; exact .waitUntil h', fun _ _ => ht⟩
      | fork bs next => rw [advance.eq_2, advance_true _ _ _ _ rfl] at hr; cases hr
      | pause next => rw [advance.eq_3] at hr; cases hr
      | observe | change | clock | emit | isCancelled | cancel | draw => simp [Program.step] at hs
    | forked bs next =>
      -- a fork at rest: its branches rest, none lies deep, and one has not settled
      have hrest := advance_rested _ _ _ _ hr
      rw [advance.eq_5] at hrest hr
      rcases hall : advanceAll fuel m bs with ⟨m', bs', mb⟩
      rw [hall] at hrest hr
      cases hset : settled? bs' with
      | some rs =>
        simp only [hset, advance_true _ _ _ _ rfl] at hr
        cases hr
      | none =>
        simp only [hset, Bool.false_or] at hr hrest
        simp only [Prod.mk.injEq, forked.injEq] at hrest
        obtain ⟨hm', ⟨hbs', -⟩, -⟩ := hrest
        subst m' bs'
        have hbr := advanceAll_rested (by rw [hall, hr])
        have hbd : ∀ b ∈ bs, ¬ b.Deep fuel := fun b hb hbd => hd ⟨b, hb, hbd⟩
        have hbw : ∀ b ∈ bs, ∀ w, b.wakeTime = some w → n' ≤ w := earliest_le hw
        simp only [program_forked] at h ⊢
        cases h with
        | fork hb hnext hL =>
          have hshift := RunsAll.shift hn (fun b hb' {r t₁ l} hrb => by
            obtain ⟨h₁, h₂⟩ := ih (hbr b hb') (hbd b hb') (hbw b hb') hrb
            exact ⟨h₁, fun hu => h₂ hu (fun a he => by subst he; cases hrb)⟩) hb
          -- some branch has not settled, so the last of them settles after the new time
          have hu := hshift.2 (exists_unsettled hset)
          have ht := hnext.le
          refine ⟨?_, fun _ _ => Nat.le_trans hu ht⟩
          rw [Nat.max_eq_left (Nat.le_trans hu ht)]
          have hbs := hshift.1
          rw [Nat.max_eq_left hu] at hbs
          exact .fork hbs hnext hL

end Thread

namespace Machine

open Program Thread

theorem happen_nil (m : Machine σ) : m.happen [] = (m, [], false) := rfl

/-- A thread with a branch that no pass reaches never finishes: the machine gives no answer. -/
theorem drive_deep (fuel : Nat) (m : Machine σ) {th : Thread σ β τ} (h : th.Deep passFuel) :
    (drive fuel m th []).2 = none := by
  induction fuel generalizing m th with
  | zero => rfl
  | succ fuel ih =>
    rw [drive.eq_2]
    have hd := quiesce_deep passLimit passFuel m th h
    rcases hq : th.quiesce passLimit passFuel m with ⟨m1, th1, rested⟩
    rw [hq] at hd
    -- a deep thread is a fork under way, which has no answer
    have hans : th1.answer? = none := by
      cases th1 with
      | running p => exact hd.elim
      | forked _ _ => rfl
    simp only [hans, happen_nil]
    cases rested with
    | false => rfl
    | true =>
      simp only [Bool.not_true, Bool.false_eq_true, if_false]
      cases th1.nextTime [] with
      | none => rfl
      | some t => exact ih _ hd

/-- The time a resting thread is woken at is the time it waits for. -/
theorem nextTime_nil {th : Thread σ β τ} {w : Nat}
    (hn : th.nextTime ([] : List (Nat × Happening σ)) = some w) :
    th.wakeTime = some w := by
  unfold nextTime at hn
  cases hwt : th.wakeTime with
  | none => rw [hwt] at hn; cases hn
  | some x => rw [hwt] at hn; simpa using hn

/-- **A tick keeps to the timed run**: when a thread within reach of a pass rests without an
answer, the clock moves on to the time it waits for, if that is later, and the thread's timed run
goes on from there to the same end. -/
theorem tick_runs {m : Machine σ} {th : Thread σ β τ} {w : Nat} {z : β ⊕ τ} {t₁ : Nat}
    {L : Changes σ} (hres : (advance passFuel m th false).2.2 = false) (hd : ¬ th.Deep passFuel)
    (hc : m.cancelled = false) (hans : th.answer? = none)
    (hn : th.nextTime ([] : List (Nat × Happening σ)) = some w)
    (h : Runs m.now th.program z t₁ L) : Runs (max w m.now) th.program z t₁ L := by
  have hu : th.Unsettled := by
    rintro b rfl
    simp [nextTime, wakeTime] at hn
  have hf : ∀ a, th ≠ .running (.finish a) := by
    rintro a rfl
    simp [answer?] at hans
  rcases Nat.le_total m.now w with hle | hle
  · -- the clock moves on to the wake time, which the run has not passed
    have hwake : ∀ w', th.wakeTime = some w' → w ≤ w' := by
      intro w' hw'
      rw [nextTime_nil hn] at hw'
      cases hw'
      exact Nat.le_refl _
    obtain ⟨hshift, hlt⟩ := rested_runs passFuel hres hd hc hle hwake h
    rw [Nat.max_eq_left (hlt hu hf)] at hshift
    rwa [Nat.max_eq_left hle]
  · -- the wake time has come already: the clock stays
    rwa [Nat.max_eq_right hle]

/-- **The machine runs a program as its timed run says**: whenever it answers a program that has a
timed run, started uncancelled with nothing to happen from outside, the answer is the run's, the
clock stands at the time the run ends, and the world has changed by the run's changes, in some
order. -/
theorem drive_runs (fuel : Nat) {m m' : Machine σ} {th : Thread σ β τ} {a : τ}
    (h : drive fuel m th [] = (m', some a)) (hc : m.cancelled = false) {z : β ⊕ τ} {t₁ : Nat}
    {L : Changes σ} (hr : Runs m.now th.program z t₁ L) :
    z = .inr a ∧ m'.now = t₁ ∧ ∃ δ, L.Perm δ ∧ m'.world = applyAll δ m.world := by
  induction fuel generalizing m th z t₁ L with
  | zero => cases h
  | succ fuel ih =>
    rw [drive.eq_2] at h
    obtain ⟨hq, hrest⟩ := quiesce_moves passLimit passFuel m th
    rcases hqe : th.quiesce passLimit passFuel m with ⟨m1, th1, rested⟩
    rw [hqe] at hq hrest h
    -- the passes of this instant keep to the timed run
    obtain ⟨hnow, hc1, δ1, L1, hr1, hL, hw1⟩ := hq.runs hc hr
    simp only at hnow hc1 hr1 hw1
    cases hans : th1.answer? with
    | some b =>
      simp only [hans, Prod.mk.injEq, Option.some.injEq] at h
      obtain ⟨rfl, rfl⟩ := h
      rw [answer?_eq_some hans] at hr1
      cases hr1
      exact ⟨rfl, hnow, δ1, by simpa using hL, hw1⟩
    | none =>
      cases rested with
      | false => simp [hans] at h
      | true =>
        have hres : (advance passFuel m1 th1 false).2.2 = false := hrest rfl
        simp only [hans, happen_nil, Bool.not_true, Bool.false_eq_true, if_false] at h
        cases hn : th1.nextTime [] with
        | none =>
          rw [hn] at h
          simp at h
        | some w =>
          rw [hn] at h
          simp only at h
          by_cases hd : th1.Deep passFuel
          · -- a branch out of reach: the machine could never have answered
            have := drive_deep fuel { m1 with now := max w m1.now } hd
            rw [h] at this
            cases this
          · -- the instant's changes come first, then those of the rest of the run
            have hr2 := tick_runs hres hd hc1 hans hn (by rwa [hnow])
            obtain ⟨hz, ht, δ2, hL2, hw2⟩ := ih h hc1 hr2
            refine ⟨hz, ht, δ1 ++ δ2, hL.trans (hL2.append_left δ1), ?_⟩
            rw [hw2, applyAll_append, ← hw1]

end Machine

/-- **A program run alone by the machine keeps to its timed run**: whenever the machine answers, it
gives the run's answer when the run ends, with the world changed by the run's changes. -/
theorem Program.run_runs {p : Program σ β τ} {m m' : Machine σ} {a : τ}
    (h : p.run m = (m', some a)) (hc : m.cancelled = false) {z : β ⊕ τ} {t₁ : Nat}
    {L : Program.Changes σ} (hr : p.Runs m.now z t₁ L) :
    z = .inr a ∧ m'.now = t₁ ∧ ∃ δ, L.Perm δ ∧ m'.world = Program.applyAll δ m.world := by
  have hs : Happening.schedule ([] : List (Nat × Happening σ)) = [] := by simp [Happening.schedule]
  unfold Program.run at h
  rw [hs] at h
  exact Machine.drive_runs instantLimit h hc hr

end Rollout
