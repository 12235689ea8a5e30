import Mathlib
import Rollout.Proofs.Ends
/-!
# Timed runs

A run that is never cancelled, that nothing outside the program changes and that never reads the
world or draws a random word is determined by the program alone: every request is answered the
same way whenever it is made. `Program.Runs t p z t' l` is that run, written without a machine:
started at time `t`, the program `p` ends with `z` at time `t'` and changes the world by `l` on the
way. A fork's branches run from its time, and their changes may interleave in any way.

The machine keeps to such runs:

* `Thread.Move.runs`, `Thread.Moves.runs`: a request the machine answers leaves a thread that runs
  on to the same end at the same time, the change it made, if any, taken off those to come.
-/

namespace Rollout

variable {σ β τ : Type}

namespace Program

/-- Changes made to the world, each with the time it was made at, in order. -/
abbrev Changes (σ : Type) := List (Nat × (σ → σ))

/-- The world after changes, made in order. -/
def applyAll (δ : Changes σ) (w : σ) : σ := δ.foldl (fun w c => c.2 w) w

@[simp] theorem applyAll_nil (w : σ) : applyAll [] w = w := rfl

@[simp] theorem applyAll_append (δ δ' : Changes σ) (w : σ) :
    applyAll (δ ++ δ') w = applyAll δ' (applyAll δ w) := by
  simp [applyAll, List.foldl_append]

@[simp] theorem applyAll_cons (c : Nat × (σ → σ)) (δ : Changes σ) (w : σ) :
    applyAll (c :: δ) w = applyAll δ (c.2 w) := rfl

mutual

/-- How a program runs on a run that is never cancelled and that nothing outside changes:
started at time `t`, it ends with `z` at time `t'` and changes the world by `l` on the way. Each
request is answered as the machine answers it: the clock gives the time; a sleep, or a wait, goes
on at its time, at once if that has passed; a fork goes on when the last of its branches has
settled, with their values in order, its branches' changes interleaved in any way. A program
that reads the world, draws a random word or cancels the run has no such run. -/
inductive Runs : Nat → Program σ β τ → β ⊕ τ → Nat → Changes σ → Prop
  | finish {t : Nat} {a : τ} : Runs t (.finish a) (.inr a) t []
  | settle {t : Nat} {b : β} : Runs t (.settle b) (.inl b) t []
  | change {t t' : Nat} {z : β ⊕ τ} {l : Changes σ} {f : σ → σ} {next : Program σ β τ}
      (h : Runs t next z t' l) : Runs t (.change f next) z t' ((t, f) :: l)
  | clock {t t' : Nat} {z : β ⊕ τ} {l : Changes σ} {next : Nat → Program σ β τ}
      (h : Runs t (next t) z t' l) : Runs t (.clock next) z t' l
  | emit {t t' : Nat} {z : β ⊕ τ} {l : Changes σ} {s : Scope} {e : Event} {next : Program σ β τ}
      (h : Runs t next z t' l) : Runs t (.emit s e next) z t' l
  | isCancelled {t t' : Nat} {z : β ⊕ τ} {l : Changes σ} {next : Bool → Program σ β τ}
      (h : Runs t (next false) z t' l) : Runs t (.isCancelled next) z t' l
  | sleepUntil {t w t' : Nat} {z : β ⊕ τ} {l : Changes σ} {next : Program σ β τ}
      (h : Runs (max w t) next z t' l) : Runs t (.sleepUntil w next) z t' l
  | waitUntil {t w t' : Nat} {z : β ⊕ τ} {l : Changes σ} {next : Bool → Program σ β τ}
      (h : Runs (max w t) (next false) z t' l) : Runs t (.waitUntil w next) z t' l
  | pause {t t' : Nat} {z : β ⊕ τ} {l : Changes σ} {next : Program σ β τ}
      (h : Runs t next z t' l) : Runs t (.pause next) z t' l
  | fork {t u t' : Nat} {z : β ⊕ τ} {bs : List (Program σ β τ)} {rs : List β}
      {next : List β → Program σ β τ} {ls l L : Changes σ} (hb : RunsAll t bs rs u ls)
      (h : Runs u (next rs) z t' l) (hL : L.Perm (ls ++ l)) : Runs t (.fork bs next) z t' L

/-- Branches all started at time `t` settle with the values `rs`, in order, the last of them at
time `u`, and change the world by `ls`, the changes of each branch in turn. -/
inductive RunsAll : Nat → List (Program σ β τ) → List β → Nat → Changes σ → Prop
  | nil {t : Nat} : RunsAll t [] [] t []
  | cons {t t₁ u : Nat} {b : Program σ β τ} {bs : List (Program σ β τ)} {r : β} {rs : List β}
      {l ls : Changes σ} (h : Runs t b (.inl r) t₁ l) (hs : RunsAll t bs rs u ls) :
      RunsAll t (b :: bs) (r :: rs) (max t₁ u) (l ++ ls)

end

mutual

/-- A run never ends before it starts. -/
theorem Runs.le {t t' : Nat} {p : Program σ β τ} {z : β ⊕ τ} {l : Changes σ} :
    Runs t p z t' l → t ≤ t'
  | .finish | .settle => Nat.le_refl _
  | .change h | .clock h | .emit h | .isCancelled h | .pause h => h.le
  | .sleepUntil h | .waitUntil h => Nat.le_trans (Nat.le_max_right _ _) h.le
  | .fork hb h _ => Nat.le_trans hb.le h.le

theorem RunsAll.le {t u : Nat} {bs : List (Program σ β τ)} {rs : List β} {ls : Changes σ} :
    RunsAll t bs rs u ls → t ≤ u
  | .nil => Nat.le_refl _
  | .cons _ hs => Nat.le_trans hs.le (Nat.le_max_right _ _)

end

/-- One branch among others: its run, and the runs of the branches with it replaced by any other
that settles with the same value at the same time. -/
theorem RunsAll.split {t u : Nat} {pre post : List (Program σ β τ)} {b : Program σ β τ}
    {rs : List β} {ls : Changes σ} (h : RunsAll t (pre ++ b :: post) rs u ls) :
    ∃ r t₁ l lpre lpost, Runs t b (.inl r) t₁ l ∧ ls = lpre ++ l ++ lpost ∧
      ∀ b' l', Runs t b' (.inl r) t₁ l' → RunsAll t (pre ++ b' :: post) rs u (lpre ++ l' ++ lpost) := by
  induction pre generalizing rs u ls with
  | nil =>
    cases h with
    | @cons _ _ _ _ _ _ _ l ls hb hs =>
      exact ⟨_, _, l, [], ls, hb, by simp, fun _ _ hb' => by simpa using RunsAll.cons hb' hs⟩
  | cons x pre ih =>
    cases h with
    | @cons _ _ _ _ _ _ _ lx _ hx hs =>
      obtain ⟨r, t₁, l, lpre, lpost, hb, rfl, hrep⟩ := ih hs
      refine ⟨r, t₁, l, lx ++ lpre, lpost, hb, by simp, fun b' l' hb' => ?_⟩
      have hall := RunsAll.cons hx (hrep b' l' hb')
      simpa only [List.append_assoc, List.cons_append] using hall

end Program

namespace Thread

open Program

/-- Branches that have all settled settle at once, with their values and no change. -/
theorem runsAll_settled {ths : List (Thread σ β τ)} {rs : List β} (h : settled? ths = some rs)
    {t u : Nat} {rs' : List β} {ls : Changes σ} (hr : RunsAll t (ths.map program) rs' u ls) :
    rs' = rs ∧ u = t ∧ ls = [] := by
  fun_induction settled? ths generalizing rs rs' u ls with
  | case1 =>
    cases h
    cases hr
    exact ⟨rfl, rfl, rfl⟩
  | case2 b rest ih =>
    simp only [Option.map_eq_some_iff] at h
    obtain ⟨rs₀, h₀, rfl⟩ := h
    simp only [List.map_cons, program_running] at hr
    cases hr with
    | cons hb hs =>
      cases hb
      obtain ⟨rfl, rfl, rfl⟩ := ih h₀ hs
      simp
  | case3 => simp at h

/-- **A move keeps to every timed run of the thread**: answered as the run says, a request leaves
a thread that runs on to the same end at the same time, with the change it made, if any, taken
off the changes still to come. The clock stays, and the run stays uncancelled. -/
theorem Move.runs {x y : Machine σ × Thread σ β τ} (h : Move x y) (hc : x.1.cancelled = false) :
    ∀ {z : β ⊕ τ} {t' : Nat} {L : Changes σ}, Runs x.1.now x.2.program z t' L →
      y.1.now = x.1.now ∧ y.1.cancelled = false ∧
        ∃ δ L', Runs x.1.now y.2.program z t' L' ∧ L.Perm (δ ++ L') ∧
          y.1.world = applyAll δ x.1.world := by
  induction h with
  | @step m m' p p' h =>
    intro z t' L hr
    have hc₀ : m.cancelled = false := hc
    cases step_answer h with
    | observe | cancel | draw => cases hr
    | change f next =>
      cases hr with
      | change hn => exact ⟨rfl, hc, [(m.now, f)], _, hn, .refl _, rfl⟩
    | clock next => cases hr with | clock hn => exact ⟨rfl, hc, [], _, hn, .refl _, rfl⟩
    | emit s e next => cases hr with | emit hn => exact ⟨rfl, hc, [], _, hn, .refl _, rfl⟩
    | isCancelled next =>
      cases hr with | isCancelled hn => exact ⟨rfl, hc, [], _, by rwa [hc₀], .refl _, rfl⟩
    | sleepUntil next hw =>
      cases hr with
      | sleepUntil hn => exact ⟨rfl, hc, [], _, by simpa [Nat.max_eq_right hw] using hn, .refl _, rfl⟩
    | waitCancelled next hc' =>
      rw [hc₀] at hc'
      cases hc'
    | waitElapsed next _ hw =>
      cases hr with
      | waitUntil hn => exact ⟨rfl, hc, [], _, by simpa [Nat.max_eq_right hw] using hn, .refl _, rfl⟩
  | pause =>
    intro z t' L hr
    cases hr with | pause hn => exact ⟨rfl, hc, [], _, hn, .refl _, rfl⟩
  | fork =>
    intro z t' L hr
    refine ⟨rfl, hc, [], L, ?_, .refl _, rfl⟩
    simpa [Function.comp_def] using hr
  | join hrs =>
    intro z t' L hr
    simp only [program_forked] at hr
    cases hr with
    | fork hb hn hL =>
      obtain ⟨rfl, rfl, rfl⟩ := runsAll_settled hrs hb
      exact ⟨rfl, hc, [], _, hn, by simpa using hL, rfl⟩
  | @branch m m' b b' pre post next hm ih =>
    intro z t' L hr
    simp only [program_forked, List.map_append, List.map_cons] at hr ⊢
    cases hr with
    | fork hb hn hL =>
      obtain ⟨r, t₁, l, lpre, lpost, hbr, rfl, hrep⟩ := RunsAll.split hb
      obtain ⟨hnow, hc', δ, l', hbr', hl, hw⟩ := ih hc hbr
      refine ⟨hnow, hc', δ, _, .fork (hrep _ _ hbr') hn (.refl _), ?_, hw⟩
      -- the branch's change is the first of those still to come
      refine hL.trans ?_
      have hmid : (lpre ++ (δ ++ l') ++ lpost).Perm (δ ++ (lpre ++ l' ++ lpost)) := by
        simpa only [List.append_assoc] using
          (@List.perm_append_comm _ lpre δ).append_right (l' ++ lpost)
      simpa only [List.append_assoc] using
        (((hl.append_left lpre).append_right lpost).trans hmid).append_right _

/-- Moves, any number of them, keep to every timed run of the thread. -/
theorem Moves.runs {x y : Machine σ × Thread σ β τ} (h : Moves x y) (hc : x.1.cancelled = false)
    {z : β ⊕ τ} {t' : Nat} {L : Changes σ} (hr : Runs x.1.now x.2.program z t' L) :
    y.1.now = x.1.now ∧ y.1.cancelled = false ∧
      ∃ δ L', Runs x.1.now y.2.program z t' L' ∧ L.Perm (δ ++ L') ∧
        y.1.world = applyAll δ x.1.world := by
  induction h with
  | refl => exact ⟨rfl, hc, [], L, hr, .refl _, rfl⟩
  | tail _ hmove ih =>
    obtain ⟨hnow, hc₁, δ, L₁, hr₁, hL, hw⟩ := ih
    obtain ⟨hnow', hc₂, δ', L₂, hr₂, hL₁, hw'⟩ := hmove.runs hc₁ (by rwa [hnow])
    refine ⟨hnow'.trans hnow, hc₂, δ ++ δ', L₂, by rwa [← hnow], ?_, by rw [hw', hw, applyAll_append]⟩
    simpa only [List.append_assoc] using hL.trans (hL₁.append_left δ)

end Thread

end Rollout
