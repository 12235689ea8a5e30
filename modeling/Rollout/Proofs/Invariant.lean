import Mathlib
import Rollout.Proofs.Natural
import Rollout.Proofs.Alone
/-!
# What a run keeps

A program that keeps an invariant `I` of the world (`Program.Keeps I`) keeps it along every run:
each move of the thread keeps it and leaves a thread that still keeps it, a happening keeps it
when the change it makes from outside does, and the clock does not touch the world. So wherever
the machine stops, with an answer or without one, the world satisfies `I`.

* `Machine.Step.keeps`: a step of a run that keeps `I` leads to a run that keeps it;
* `Program.run_keeps`: **the world a run stops at satisfies every invariant that the program
  and the happenings keep**.
-/

namespace Rollout

open Program Relation

variable {σ β τ : Type} {I : σ → Prop}

/-- A happening keeps `I`: a change from outside takes every world with `I` to one with `I`. -/
def Happening.Keeps (I : σ → Prop) : Happening σ → Prop
  | .cancel | .interrupt => True
  | .change f => ∀ w, I w → I (f w)

namespace Machine

theorem apply_keeps {m : Machine σ} {h : Happening σ} (hw : I m.world) (hh : h.Keeps I) :
    I (m.apply h).world := by
  cases h with
  | cancel | interrupt => simpa [apply] using hw
  | change f => exact hh _ hw

/-- The happenings due keep `I`, and those left to come still keep it. -/
theorem happen_keeps {m : Machine σ} {hs : List (Nat × Happening σ)} (hw : I m.world)
    (hh : ∀ x ∈ hs, x.2.Keeps I) :
    I (m.happen hs).1.world ∧ ∀ x ∈ (m.happen hs).2.1, x.2.Keeps I := by
  induction hs generalizing m with
  | nil => exact ⟨hw, fun _ hx => nomatch hx⟩
  | cons x rest ih =>
    obtain ⟨t, h⟩ := x
    unfold happen
    split
    · exact ih (apply_keeps hw (hh _ List.mem_cons_self))
        fun y hy => hh y (List.mem_cons_of_mem _ hy)
    · exact ⟨hw, hh⟩

end Machine

/-- An answered request of a program that keeps `I` keeps `I`, and what follows still keeps it. -/
theorem Program.step_keeps {m m' : Machine σ} {p p' : Program σ β τ}
    (h : p.step m = some (m', p')) (hw : I m.world) (hp : Keeps I p) :
    I m'.world ∧ Keeps I p' := by
  cases step_answer h with
  | observe => cases hp with | observe hn => exact ⟨hw, hn _ hw⟩
  | change => cases hp with | change hf hn => exact ⟨hf _ hw, hn⟩
  | clock => cases hp with | clock hn => exact ⟨hw, hn _⟩
  | emit => cases hp with | emit hn => exact ⟨hw, hn⟩
  | isCancelled => cases hp with | isCancelled hn => exact ⟨hw, hn _⟩
  | cancel => cases hp with | cancel hn => exact ⟨by simpa using hw, hn⟩
  | sleepUntil => cases hp with | sleepUntil hn => exact ⟨hw, hn⟩
  | waitCancelled | waitElapsed => cases hp with | waitUntil hn => exact ⟨hw, hn _⟩
  | draw => cases hp with | draw hn => exact ⟨by simpa using hw, hn _⟩

/-- **A move of a thread that keeps `I` keeps `I`**, and leaves a thread that still keeps it. -/
theorem Thread.Move.keeps {x y : Machine σ × Thread σ β τ} (h : Thread.Move x y)
    (hw : I x.1.world) (hk : Keeps I x.2.program) : I y.1.world ∧ Keeps I y.2.program := by
  induction h with
  | step h => simpa using step_keeps h hw (by simpa using hk)
  | pause =>
    simp only [Thread.program_running] at hk ⊢
    cases hk with
    | pause h => exact ⟨hw, h⟩
  | fork => simpa [Function.comp_def] using And.intro hw hk
  | join =>
    simp only [Thread.program_forked, Thread.program_running] at hk ⊢
    cases hk with
    | fork _ hn => exact ⟨hw, hn _⟩
  | branch _ ih =>
    simp only [Thread.program_forked, List.map_append, List.map_cons] at hk ⊢
    cases hk with
    | fork hb hn =>
      -- the branch that moved keeps `I` by the move; its siblings are as they were
      obtain ⟨hw', hb'⟩ := ih hw (hb _ (by simp))
      refine ⟨hw', .fork (fun q hq => ?_) hn⟩
      simp only [List.mem_append, List.mem_cons] at hq
      rcases hq with hq | rfl | hq
      · exact hb q (by simp [hq])
      · exact hb'
      · exact hb q (by simp [hq])

namespace Machine

/-- A run keeps `I`: the world satisfies it, the thread keeps it, and so do the happenings still
to come. -/
def Config.Keeps (I : σ → Prop) (c : Config σ β τ) : Prop :=
  I c.1.world ∧ Program.Keeps I c.2.1.program ∧ ∀ x ∈ c.2.2, x.2.Keeps I

/-- **A step of a run that keeps `I` leads to a run that keeps `I`.** -/
theorem Step.keeps {c c' : Config σ β τ} (h : Step c c') (hc : c.Keeps I) : c'.Keeps I := by
  obtain ⟨hw, hp, hh⟩ := hc
  cases h with
  | move hm =>
    obtain ⟨hw', hp'⟩ := hm.keeps hw hp
    exact ⟨hw', hp', hh⟩
  | happen _ _ he =>
    have hk := happen_keeps hw hh
    rw [he] at hk
    exact ⟨hk.1, hp, hk.2⟩
  | tick => exact ⟨hw, hp, hh⟩

theorem Steps.keeps {c c' : Config σ β τ} (h : Steps c c') (hc : c.Keeps I) : c'.Keeps I := by
  induction h with
  | refl => exact hc
  | tail _ hs ih => exact hs.keeps ih

end Machine

/-- **The world a run stops at satisfies every invariant that the program and the happenings
keep**, from a world that satisfies it, whatever the machine answers. -/
theorem Program.run_keeps {p : Program σ β τ} {m : Machine σ} {hs : List (Nat × Happening σ)}
    (hp : Keeps I p) (hw : I m.world) (hh : ∀ x ∈ hs, x.2.Keeps I) : I (p.run m hs).1.world := by
  rcases hrun : p.run m hs with ⟨m', r⟩
  obtain ⟨th', hs', hsteps⟩ := Machine.run_reaches hrun
  have hstart : Machine.Config.Keeps I (m, Thread.running p, Happening.schedule hs) :=
    ⟨hw, by simpa using hp, fun x hx => hh x (List.mem_mergeSort.1 hx)⟩
  exact (hsteps.keeps hstart).1

end Rollout
