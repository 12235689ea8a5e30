import Mathlib
import Rollout.Program.Machine
/-!
# Runs as sequences of steps

The machine that runs programs (`Program.run`) is a function with fuel: it passes over the
thread tree until nothing moves, lets the happenings due take place, moves the clock, and gives
no answer once its fuel is spent. Here its behaviour is taken apart into single transitions, so
that what a run does can be proved one transition at a time.

* A *move* of a thread answers one request of a running program, takes a pause, starts a fork,
  joins a fork whose branches have all settled, or moves one branch of a fork.
* A *step* of a run is a move, or, once a pass over the thread moves nothing and there is no
  answer yet, the happenings due taking place, or the clock moving to the next time that a
  branch or a happening waits for.

Main statements:

* `advance_moves`: one pass over a thread is a sequence of moves;
* `advance_rested`: a pass that reports no move changed nothing;
* `drive_reaches`, `drive_steps`: **wherever the machine stops, answer or not, it got there by a
  sequence of steps**, whatever its fuel, so a property that every step keeps holds there;
* `Step.cancelled_le`: a step never undoes cancellation.
-/

namespace Rollout

open Relation

namespace Thread

variable {σ β τ : Type}

/-- One move of a thread on the machine. -/
inductive Move : Machine σ × Thread σ β τ → Machine σ × Thread σ β τ → Prop
  /-- A request of a running program is answered. -/
  | step {m m' : Machine σ} {p p' : Program σ β τ} (h : p.step m = some (m', p')) :
      Move (m, .running p) (m', .running p')
  /-- A running program gives way. -/
  | pause {m : Machine σ} {next : Program σ β τ} :
      Move (m, .running (.pause next)) (m, .running next)
  /-- A running program forks into its branches. -/
  | fork {m : Machine σ} {bs : List (Program σ β τ)} {next : List β → Program σ β τ} :
      Move (m, .running (.fork bs next)) (m, .forked (bs.map .running) next)
  /-- A fork whose branches have all settled goes on with their results. -/
  | join {m : Machine σ} {bs : List (Thread σ β τ)} {next : List β → Program σ β τ} {rs : List β}
      (h : settled? bs = some rs) : Move (m, .forked bs next) (m, .running (next rs))
  /-- One branch of a fork moves. -/
  | branch {m m' : Machine σ} {b b' : Thread σ β τ} {pre post : List (Thread σ β τ)}
      {next : List β → Program σ β τ} (h : Move (m, b) (m', b')) :
      Move (m, .forked (pre ++ b :: post) next) (m', .forked (pre ++ b' :: post) next)

/-- Moves of a thread, any number of them. -/
abbrev Moves : Machine σ × Thread σ β τ → Machine σ × Thread σ β τ → Prop := ReflTransGen Move

/-- Moves of one branch are moves of the fork it belongs to. -/
theorem Moves.branch (pre post : List (Thread σ β τ)) (next : List β → Program σ β τ)
    {m m' : Machine σ} {b b' : Thread σ β τ} (h : Moves (m, b) (m', b')) :
    Moves (m, .forked (pre ++ b :: post) next) (m', .forked (pre ++ b' :: post) next) := by
  let place : Machine σ × Thread σ β τ → Machine σ × Thread σ β τ :=
    fun x => (x.1, .forked (pre ++ x.2 :: post) next)
  refine ReflTransGen.lift place (fun x y hxy => ?_) _ _ h
  obtain ⟨mx, bx⟩ := x
  obtain ⟨my, b'y⟩ := y
  exact Move.branch hxy

theorem answer?_eq_some {th : Thread σ β τ} {a : τ} (h : th.answer? = some a) :
    th = .running (.finish a) := by
  match th, h with
  | .running (.finish _), rfl => rfl

/-! ### One pass -/

/-- A pass started as having moved reports that it moved. -/
theorem advance_true (fuel : Nat) (m : Machine σ) (th : Thread σ β τ) (moved : Bool)
    (h : moved = true) : (advance fuel m th moved).2.2 = true := by
  revert h
  refine advance.induct
    (fun fuel m th moved => moved = true → (advance fuel m th moved).2.2 = true)
    (fun _ _ _ => True) ?_ ?_ ?_ ?_ ?_ ?_ ?_ ?_ ?_ fuel m th moved
  · intro m th moved h; simpa [advance] using h
  · intro m moved fuel bs next ih _; rw [advance.eq_2]; exact ih rfl
  · intro m moved fuel next _; rw [advance.eq_3]
  · intro m moved fuel p hf hp hs h; rw [advance.eq_4 _ _ _ _ hf hp, hs]; exact h
  · intro m moved fuel p hf hp m' p' hs ih _; rw [advance.eq_4 _ _ _ _ hf hp, hs]; exact ih rfl
  · intro m moved fuel bs next m' bs' mb hall rs hrs _ ih _
    rw [advance.eq_5, hall]; simp only [hrs]; exact ih rfl
  · intro m moved fuel bs next m' bs' mb hall hrs _ h
    rw [advance.eq_5, hall]; simp only [hrs, h, Bool.true_or]
  · intros; trivial
  · intros; trivial

/-- **One pass is a sequence of moves**, for a single thread and for the branches of a fork
taken in order. -/
theorem advance_moves (fuel : Nat) (m : Machine σ) (th : Thread σ β τ) (moved : Bool) :
    Moves (m, th) ((advance fuel m th moved).1, (advance fuel m th moved).2.1) := by
  refine advance.induct
    (fun fuel m th moved => Moves (m, th) ((advance fuel m th moved).1, (advance fuel m th moved).2.1))
    (fun fuel m bs => ∀ (pre : List (Thread σ β τ)) (next : List β → Program σ β τ),
      Moves (m, .forked (pre ++ bs) next)
        ((advanceAll fuel m bs).1, .forked (pre ++ (advanceAll fuel m bs).2.1) next))
    ?_ ?_ ?_ ?_ ?_ ?_ ?_ ?_ ?_ fuel m th moved
  · intro m th moved; simp only [advance]; exact .refl
  · intro m moved fuel bs next ih; rw [advance.eq_2]; exact .head .fork ih
  · intro m moved fuel next; rw [advance.eq_3]; exact .single .pause
  · intro m moved fuel p hf hp hs; rw [advance.eq_4 _ _ _ _ hf hp, hs]
  · intro m moved fuel p hf hp m' p' hs ih
    rw [advance.eq_4 _ _ _ _ hf hp, hs]
    exact .head (.step hs) ih
  · intro m moved fuel bs next m' bs' mb hall rs hrs ihall ih
    rw [advance.eq_5, hall]
    simp only [hrs]
    -- the branches move, the fork joins, and the program after it goes on
    have hb := ihall [] next
    rw [hall] at hb
    exact hb.trans (.head (.join hrs) ih)
  · intro m moved fuel bs next m' bs' mb hall hrs ihall
    rw [advance.eq_5, hall]
    simp only [hrs]
    have hb := ihall [] next
    rwa [hall] at hb
  · intro fuel m pre next; simp only [advanceAll, List.append_nil]; exact .refl
  · intro fuel m th rest m' th' mv h1 m'' rest' mr h2 ih1 ih2 pre next
    rw [advanceAll.eq_2, h1]
    simp only [h2]
    have moved1 : Moves (m, th) (m', th') := by rw [h1] at ih1; exact ih1
    have others := ih2 (pre ++ [th']) next
    rw [h2] at others
    simp only [List.append_assoc, List.singleton_append] at others
    exact (Moves.branch pre rest next moved1).trans others

/-- **A pass that reports no move changed nothing.** -/
theorem advance_rested (fuel : Nat) (m : Machine σ) (th : Thread σ β τ) (moved : Bool)
    (h : (advance fuel m th moved).2.2 = false) : advance fuel m th moved = (m, th, moved) := by
  revert h
  refine advance.induct
    (fun fuel m th moved => (advance fuel m th moved).2.2 = false →
      advance fuel m th moved = (m, th, moved))
    (fun fuel m bs => (advanceAll fuel m bs).2.2 = false → advanceAll fuel m bs = (m, bs, false))
    ?_ ?_ ?_ ?_ ?_ ?_ ?_ ?_ ?_ fuel m th moved
  · intro m th moved _; simp [advance]
  · intro m moved fuel bs next _ h
    rw [advance.eq_2, advance_true _ _ _ _ rfl] at h; simp at h
  · intro m moved fuel next h; rw [advance.eq_3] at h; simp at h
  · intro m moved fuel p hf hp hs _; rw [advance.eq_4 _ _ _ _ hf hp, hs]
  · intro m moved fuel p hf hp m' p' hs _ h
    rw [advance.eq_4 _ _ _ _ hf hp, hs, advance_true _ _ _ _ rfl] at h
    simp at h
  · intro m moved fuel bs next m' bs' mb hall rs hrs _ _ h
    rw [advance.eq_5, hall] at h
    simp only [hrs, advance_true _ _ _ _ rfl] at h
    simp at h
  · intro m moved fuel bs next m' bs' mb hall hrs ihall h
    rw [advance.eq_5, hall] at h ⊢
    simp only [hrs, Bool.or_eq_false_iff] at h ⊢
    obtain ⟨rfl, rfl⟩ := h
    have e := ihall (by rw [hall])
    rw [hall] at e
    cases e
    rfl
  · intro fuel m _; exact advanceAll.eq_1 fuel m
  · intro fuel m th rest m' th' mv h1 m'' rest' mr h2 ih1 ih2 h
    rw [advanceAll.eq_2, h1] at h ⊢
    simp only [h2, Bool.or_eq_false_iff] at h ⊢
    obtain ⟨rfl, rfl⟩ := h
    have e1 := ih1 (by rw [h1])
    rw [h1] at e1
    cases e1
    have e2 := ih2 (by rw [h2])
    rw [h2] at e2
    cases e2
    rfl

/-- **Passes until rest are moves**, and when they come to rest a further pass moves nothing. -/
theorem quiesce_moves (passes fuel : Nat) (m : Machine σ) (th : Thread σ β τ) :
    Moves (m, th) ((quiesce passes fuel m th).1, (quiesce passes fuel m th).2.1) ∧
      ((quiesce passes fuel m th).2.2 = true →
        (advance fuel (quiesce passes fuel m th).1 (quiesce passes fuel m th).2.1 false).2.2 =
          false) := by
  induction passes generalizing m th with
  | zero => exact ⟨.refl, fun h => by simp [quiesce] at h⟩
  | succ n ih =>
    rw [quiesce.eq_2]
    have hmv := advance_moves fuel m th false
    rcases hp : advance fuel m th false with ⟨m1, th1, moved⟩
    rw [hp] at hmv
    cases moved with
    | true => exact ⟨hmv.trans (ih m1 th1).1, (ih m1 th1).2⟩
    | false =>
      -- the pass moved nothing: the thread rests where it was
      have e := advance_rested fuel m th false (by rw [hp])
      rw [hp] at e
      cases e
      refine ⟨.refl, fun _ => ?_⟩
      show (advance fuel m th false).2.2 = false
      rw [hp]

end Thread

namespace Machine

variable {σ β τ : Type}

/-- A run under way: the machine, the main thread, and the happenings still to come. -/
abbrev Config (σ β τ : Type) := Machine σ × Thread σ β τ × List (Nat × Happening σ)

/-- A pass over the thread moves nothing: the machine's test before it lets happenings take
place or the clock move. -/
def Rested (m : Machine σ) (th : Thread σ β τ) : Prop :=
  (Thread.advance passFuel m th false).2.2 = false

/-- One step of a run. -/
inductive Step : Config σ β τ → Config σ β τ → Prop
  /-- The thread moves. -/
  | move {m m' : Machine σ} {th th' : Thread σ β τ} {hs : List (Nat × Happening σ)}
      (h : Thread.Move (m, th) (m', th')) : Step (m, th, hs) (m', th', hs)
  /-- Nothing moves and there is no answer: the happenings due take place. -/
  | happen {m m' : Machine σ} {th : Thread σ β τ} {hs hs' : List (Nat × Happening σ)}
      (hr : Rested m th) (ha : th.answer? = none) (h : m.happen hs = (m', hs', true)) :
      Step (m, th, hs) (m', th, hs')
  /-- Nothing moves, there is no answer and nothing is due: the clock moves on. -/
  | tick {m : Machine σ} {th : Thread σ β τ} {hs : List (Nat × Happening σ)} {t : Nat}
      (hr : Rested m th) (ha : th.answer? = none) (hn : (m.happen hs).2.2 = false)
      (ht : th.nextTime hs = some t) : Step (m, th, hs) ({ m with now := max t m.now }, th, hs)

/-- Steps of a run, any number of them. -/
abbrev Steps : Config σ β τ → Config σ β τ → Prop := ReflTransGen Step

theorem Steps.of_moves {m m' : Machine σ} {th th' : Thread σ β τ}
    (hs : List (Nat × Happening σ)) (h : Thread.Moves (m, th) (m', th')) :
    Steps (m, th, hs) (m', th', hs) := by
  refine ReflTransGen.lift (fun x : Machine σ × Thread σ β τ => (x.1, x.2, hs))
    (fun x y hxy => ?_) _ _ h
  obtain ⟨mx, tx⟩ := x
  obtain ⟨my, ty⟩ := y
  exact .move hxy

/-- **Wherever the machine stops, it got there by a sequence of steps**, whatever its fuel and
whether it answers or not; where it answers, the thread has finished with the answer. -/
theorem drive_reaches (fuel : Nat) {m m' : Machine σ} {th : Thread σ β τ}
    {hs : List (Nat × Happening σ)} {r : Option τ} (h : drive fuel m th hs = (m', r)) :
    ∃ th' hs', Steps (m, th, hs) (m', th', hs') ∧ ∀ a, r = some a → th' = .running (.finish a) := by
  induction fuel generalizing m th hs with
  | zero =>
    simp only [drive, Prod.mk.injEq] at h
    obtain ⟨rfl, rfl⟩ := h
    exact ⟨th, hs, .refl, fun _ h => by cases h⟩
  | succ fuel ih =>
    rw [drive.eq_2] at h
    obtain ⟨hq, hrest⟩ := Thread.quiesce_moves passLimit passFuel m th
    rcases hqe : th.quiesce passLimit passFuel m with ⟨m1, th1, rested⟩
    rw [hqe] at hq hrest h
    have toRest := Steps.of_moves hs hq
    cases hans : th1.answer? with
    | some t =>
      simp only [hans, Prod.mk.injEq] at h
      obtain ⟨rfl, rfl⟩ := h
      exact ⟨th1, hs, toRest, fun a ha => by cases ha; exact Thread.answer?_eq_some hans⟩
    | none =>
      cases rested with
      | false =>
        -- still moving after the last pass: the machine gives up where it is
        simp only [hans, Bool.not_false, if_true, Prod.mk.injEq] at h
        obtain ⟨rfl, rfl⟩ := h
        exact ⟨th1, hs, toRest, fun _ h => by cases h⟩
      | true =>
        have hr : Rested m1 th1 := hrest rfl
        rcases hh : m1.happen hs with ⟨m2, hs2, any⟩
        cases any with
        | true =>
          simp only [hans, hh, Bool.not_true, Bool.false_eq_true, if_false, if_true] at h
          obtain ⟨th', hs', rest, hfin⟩ := ih h
          exact ⟨th', hs', toRest.trans (.head (.happen hr hans hh) rest), hfin⟩
        | false =>
          cases ht : th1.nextTime hs with
          | none =>
            -- nothing will ever wake the thread: the machine stops there
            simp only [hans, hh, ht, Bool.not_true, Bool.false_eq_true, if_false,
              Prod.mk.injEq] at h
            obtain ⟨rfl, rfl⟩ := h
            exact ⟨th1, hs, toRest, fun _ h => by cases h⟩
          | some t =>
            simp only [hans, hh, ht, Bool.not_true, Bool.false_eq_true, if_false] at h
            obtain ⟨th', hs', rest, hfin⟩ := ih h
            exact ⟨th', hs', toRest.trans (.head (.tick hr hans (by rw [hh]) ht) rest), hfin⟩

/-- **Every answer of the machine is reached by a sequence of steps**, whatever its fuel. -/
theorem drive_steps (fuel : Nat) {m m' : Machine σ} {th : Thread σ β τ}
    {hs : List (Nat × Happening σ)} {a : τ} (h : drive fuel m th hs = (m', some a)) :
    ∃ hs', Steps (m, th, hs) (m', .running (.finish a), hs') := by
  obtain ⟨th', hs', hsteps, hfin⟩ := drive_reaches fuel h
  rw [hfin a rfl] at hsteps
  exact ⟨hs', hsteps⟩

/-- Wherever a run stops, it got there by a sequence of steps from the program's start. -/
theorem run_reaches {p : Program σ β τ} {m m' : Machine σ} {hs : List (Nat × Happening σ)}
    {r : Option τ} (h : p.run m hs = (m', r)) :
    ∃ th' hs', Steps (m, .running p, Happening.schedule hs) (m', th', hs') := by
  obtain ⟨th', hs', hsteps, -⟩ := drive_reaches instantLimit h
  exact ⟨th', hs', hsteps⟩

/-- Every answer of a run is reached by a sequence of steps from the program's start. -/
theorem run_steps {p : Program σ β τ} {m m' : Machine σ} {hs : List (Nat × Happening σ)} {a : τ}
    (h : p.run m hs = (m', some a)) :
    ∃ hs', Steps (m, .running p, Happening.schedule hs) (m', .running (.finish a), hs') :=
  drive_steps instantLimit h

end Machine

/-! ### What answering a request does -/

namespace Program

/-- What answering one request does to the machine, and the program that follows: one case for
each request the machine answers at once. -/
inductive Answer (m : Machine σ) : Program σ β τ → Machine σ → Program σ β τ → Prop
  | observe (next : σ → Program σ β τ) : Answer m (.observe next) m (next m.world)
  | change (f : σ → σ) (next : Program σ β τ) :
      Answer m (.change f next) { m with world := f m.world } next
  | clock (next : Nat → Program σ β τ) : Answer m (.clock next) m (next m.now)
  | emit (s : Scope) (e : Event) (next : Program σ β τ) :
      Answer m (.emit s e next) { m with journal := m.journal.push (s, e) } next
  | isCancelled (next : Bool → Program σ β τ) : Answer m (.isCancelled next) m (next m.cancelled)
  | cancel (s : Scope) (next : Program σ β τ) : Answer m (.cancel s next) (m.cancel s) next
  | sleepUntil {t : Nat} (next : Program σ β τ) (ht : t ≤ m.now) :
      Answer m (.sleepUntil t next) m next
  /-- A wait on a cancelled run ends at once, telling so. -/
  | waitCancelled {t : Nat} (next : Bool → Program σ β τ) (hc : m.cancelled = true) :
      Answer m (.waitUntil t next) m (next true)
  /-- A wait whose time has come on a run not cancelled ends, telling so. -/
  | waitElapsed {t : Nat} (next : Bool → Program σ β τ) (hc : m.cancelled = false)
      (ht : t ≤ m.now) : Answer m (.waitUntil t next) m (next false)
  | draw (next : Nat → Program σ β τ) : Answer m (.draw next) m.draw.1 (next m.draw.2)

/-- **Every request a step answers is answered as `Answer` says.** -/
theorem step_answer {m m' : Machine σ} {p p' : Program σ β τ} (h : p.step m = some (m', p')) :
    Answer m p m' p' := by
  cases p with
  | finish | settle | fork | pause => simp [step] at h
  | observe | change | clock | emit | isCancelled | cancel | draw =>
    simp only [step, Option.some.injEq, Prod.mk.injEq] at h
    obtain ⟨rfl, rfl⟩ := h
    constructor
  | sleepUntil t next =>
    simp only [step, Option.ite_none_right_eq_some, Option.some.injEq, Prod.mk.injEq] at h
    obtain ⟨ht, rfl, rfl⟩ := h
    exact .sleepUntil next ht
  | waitUntil t next =>
    simp only [step] at h
    split at h
    · rename_i hc
      cases h
      exact .waitCancelled next hc
    · rename_i hc
      simp only [Option.ite_none_right_eq_some, Option.some.injEq, Prod.mk.injEq] at h
      obtain ⟨ht, rfl, rfl⟩ := h
      exact .waitElapsed next (by simpa using hc) ht

end Program

namespace Machine

/-! ### Cancellation is never undone -/

@[simp] theorem cancel_cancelled (m : Machine σ) (s : Scope) : (m.cancel s).cancelled = true := by
  unfold cancel; split <;> simp_all

@[simp] theorem draw_cancelled (m : Machine σ) : m.draw.1.cancelled = m.cancelled := by
  unfold draw; split <;> rfl

theorem apply_cancelled_le (m : Machine σ) (h : Happening σ) : m.cancelled ≤ (m.apply h).cancelled := by
  cases h with
  | cancel | interrupt => simp [apply]
  | change f => exact Bool.le_refl _

theorem happen_cancelled_le (m : Machine σ) (hs : List (Nat × Happening σ)) :
    m.cancelled ≤ (m.happen hs).1.cancelled := by
  induction hs generalizing m with
  | nil => exact Bool.le_refl _
  | cons x rest ih =>
    obtain ⟨t, h⟩ := x
    unfold happen
    split
    · exact Bool.le_trans (apply_cancelled_le m h) (ih (m.apply h))
    · exact Bool.le_refl _

end Machine

theorem Program.step_cancelled_le {m m' : Machine σ} {p p' : Program σ β τ}
    (h : p.step m = some (m', p')) : m.cancelled ≤ m'.cancelled := by
  cases Program.step_answer h with
  | cancel | draw => simp
  | observe | change | clock | emit | isCancelled | sleepUntil | waitCancelled | waitElapsed =>
    exact Bool.le_refl _

theorem Thread.Move.cancelled_le {x y : Machine σ × Thread σ β τ} (h : Thread.Move x y) :
    x.1.cancelled ≤ y.1.cancelled := by
  induction h with
  | step h => exact Program.step_cancelled_le h
  | pause | fork | join => exact Bool.le_refl _
  | branch _ ih => exact ih

/-- **A step never undoes cancellation.** -/
theorem Machine.Step.cancelled_le {x y : Machine.Config σ β τ} (h : Machine.Step x y) :
    x.1.cancelled ≤ y.1.cancelled := by
  cases h with
  | move h => exact h.cancelled_le
  | @happen m m' _ hs _ _ _ h =>
    have := Machine.happen_cancelled_le m hs
    rwa [h] at this
  | tick => exact Bool.le_refl _

end Rollout
