import Mathlib
import Rollout.Proofs.Moves
/-!
# What a program may end with, whatever happens around it

The machine runs a program among happenings from outside and, inside a fork, among sibling
branches that read and change the same world and may cancel the run. `Program.Ends c p z e`
says what a program may do whatever its surroundings do: started with the cancellation flag
`c`, it may end with `z` (the value a branch settles with, or the answer of the whole program)
with the flag `e`. At each request the world, the clock and the random word may be anything,
and the run may have been cancelled just before it; a cancelled run stays cancelled. A fork
ends once every branch, each started with the flag of the fork, has settled, and goes on with
their values in order.

A thread under way is read back as a program (`Thread.program`): a fork under way is the fork
of what its branches still have to do.

* `Thread.Move.ends`, `Machine.Step.ends`: a step of the machine keeps to what the program may
  do;
* `Program.run_ends`: **every answer the machine gives is one that the program may end with**,
  from the flag it started with to the flag it ended with.
-/

namespace Rollout

open Relation

variable {σ β τ : Type}

namespace Program

mutual

/-- What a program may end with in any surroundings, from a flag to a flag. -/
inductive Ends : Bool → Program σ β τ → β ⊕ τ → Bool → Prop
  | finish {c e : Bool} {a : τ} (he : c ≤ e) : Ends c (.finish a) (.inr a) e
  | settle {c e : Bool} {b : β} (he : c ≤ e) : Ends c (.settle b) (.inl b) e
  | observe {c c₀ e : Bool} {z : β ⊕ τ} {next : σ → Program σ β τ} (w : σ) (hc : c ≤ c₀)
      (h : Ends c₀ (next w) z e) : Ends c (.observe next) z e
  | change {c c₀ e : Bool} {z : β ⊕ τ} {f : σ → σ} {next : Program σ β τ} (hc : c ≤ c₀)
      (h : Ends c₀ next z e) : Ends c (.change f next) z e
  | clock {c c₀ e : Bool} {z : β ⊕ τ} {next : Nat → Program σ β τ} (n : Nat) (hc : c ≤ c₀)
      (h : Ends c₀ (next n) z e) : Ends c (.clock next) z e
  | emit {c c₀ e : Bool} {z : β ⊕ τ} {s : Scope} {ev : Event} {next : Program σ β τ}
      (hc : c ≤ c₀) (h : Ends c₀ next z e) : Ends c (.emit s ev next) z e
  | isCancelled {c c₀ e : Bool} {z : β ⊕ τ} {next : Bool → Program σ β τ} (hc : c ≤ c₀)
      (h : Ends c₀ (next c₀) z e) : Ends c (.isCancelled next) z e
  | cancel {c e : Bool} {z : β ⊕ τ} {s : Scope} {next : Program σ β τ}
      (h : Ends true next z e) : Ends c (.cancel s next) z e
  | sleepUntil {c c₀ e : Bool} {z : β ⊕ τ} {t : Nat} {next : Program σ β τ} (hc : c ≤ c₀)
      (h : Ends c₀ next z e) : Ends c (.sleepUntil t next) z e
  /-- A wait ends cut short, telling so, exactly when the run is cancelled by then. -/
  | waitUntil {c c₀ e : Bool} {z : β ⊕ τ} {t : Nat} {next : Bool → Program σ β τ} (hc : c ≤ c₀)
      (h : Ends c₀ (next c₀) z e) : Ends c (.waitUntil t next) z e
  | draw {c c₀ e : Bool} {z : β ⊕ τ} {next : Nat → Program σ β τ} (n : Nat) (hc : c ≤ c₀)
      (h : Ends c₀ (next n) z e) : Ends c (.draw next) z e
  | pause {c c₀ e : Bool} {z : β ⊕ τ} {next : Program σ β τ} (hc : c ≤ c₀)
      (h : Ends c₀ next z e) : Ends c (.pause next) z e
  /-- The branches start with the flag `c₀` of the fork and have all settled by the flag `c₁`
  the program goes on with. -/
  | fork {c c₀ c₁ e : Bool} {z : β ⊕ τ} {bs : List (Program σ β τ)} {rs : List β}
      {next : List β → Program σ β τ} (hc : c ≤ c₀) (hj : c₀ ≤ c₁) (hb : EndsAll c₀ bs rs c₁)
      (h : Ends c₁ (next rs) z e) : Ends c (.fork bs next) z e

/-- Branches that may all settle, with the values `rs` in order, each started with the flag `c`,
by the flag `e`. -/
inductive EndsAll : Bool → List (Program σ β τ) → List β → Bool → Prop
  | nil {c e : Bool} : EndsAll c [] [] e
  | cons {c e : Bool} {b : Program σ β τ} {bs : List (Program σ β τ)} {r : β} {rs : List β}
      (h : Ends c b (.inl r) e) (hs : EndsAll c bs rs e) : EndsAll c (b :: bs) (r :: rs) e

end

/-- A program that may end so from a cancelled run may end so from any. -/
theorem Ends.lower {c c' e : Bool} {p : Program σ β τ} {z : β ⊕ τ} (hc : c ≤ c')
    (h : Ends c' p z e) : Ends c p z e := by
  cases h with
  | finish he => exact .finish (Bool.le_trans hc he)
  | settle he => exact .settle (Bool.le_trans hc he)
  | observe w h₀ h => exact .observe w (Bool.le_trans hc h₀) h
  | change h₀ h => exact .change (Bool.le_trans hc h₀) h
  | clock n h₀ h => exact .clock n (Bool.le_trans hc h₀) h
  | emit h₀ h => exact .emit (Bool.le_trans hc h₀) h
  | isCancelled h₀ h => exact .isCancelled (Bool.le_trans hc h₀) h
  | cancel h => exact .cancel h
  | sleepUntil h₀ h => exact .sleepUntil (Bool.le_trans hc h₀) h
  | waitUntil h₀ h => exact .waitUntil (Bool.le_trans hc h₀) h
  | draw n h₀ h => exact .draw n (Bool.le_trans hc h₀) h
  | pause h₀ h => exact .pause (Bool.le_trans hc h₀) h
  | fork h₀ hj hb h => exact .fork (Bool.le_trans hc h₀) hj hb h

theorem EndsAll.lower {c c' e : Bool} (hc : c ≤ c') :
    {bs : List (Program σ β τ)} → {rs : List β} → EndsAll c' bs rs e → EndsAll c bs rs e
  | _, _, .nil => .nil
  | _, _, .cons h hs => .cons (h.lower hc) (EndsAll.lower hc hs)

theorem EndsAll.append {c e : Bool} {bs bs' : List (Program σ β τ)} {rs rs' : List β}
    (h : EndsAll c bs rs e) (h' : EndsAll c bs' rs' e) : EndsAll c (bs ++ bs') (rs ++ rs') e := by
  induction bs generalizing rs with
  | nil => cases h; exact h'
  | cons b bs ih =>
    cases h with
    | cons hb hs => exact .cons hb (ih hs)

theorem EndsAll.length_eq {c e : Bool} {bs : List (Program σ β τ)} {rs : List β}
    (h : EndsAll c bs rs e) : rs.length = bs.length := by
  induction bs generalizing rs with
  | nil => cases h; rfl
  | cons b bs ih =>
    cases h with
    | cons _ hs => simp [ih hs]

/-- The branches before one, the one, and those after it settle apart. -/
theorem EndsAll.split {c e : Bool} {bs : List (Program σ β τ)} {b : Program σ β τ}
    {bs' : List (Program σ β τ)} {rs : List β} (h : EndsAll c (bs ++ b :: bs') rs e) :
    ∃ rs₁ r rs₂, rs = rs₁ ++ r :: rs₂ ∧ EndsAll c bs rs₁ e ∧ Ends c b (.inl r) e ∧
      EndsAll c bs' rs₂ e := by
  induction bs generalizing rs with
  | nil =>
    cases h with
    | cons hb hs => exact ⟨[], _, _, rfl, .nil, hb, hs⟩
  | cons x bs ih =>
    cases h with
    | cons hx hs =>
      obtain ⟨rs₁, r, rs₂, rfl, h₁, hb, h₂⟩ := ih hs
      exact ⟨_ :: rs₁, r, rs₂, rfl, .cons hx h₁, hb, h₂⟩

/-- One request answered keeps to what the program may do. -/
theorem step_ends {m m' : Machine σ} {p p' : Program σ β τ} (h : p.step m = some (m', p'))
    {z : β ⊕ τ} {e : Bool} (he : Ends m'.cancelled p' z e) : Ends m.cancelled p z e := by
  cases step_answer h with
  | observe => exact .observe _ (Bool.le_refl _) he
  | change => exact .change (Bool.le_refl _) he
  | clock => exact .clock _ (Bool.le_refl _) he
  | emit => exact .emit (Bool.le_refl _) he
  | isCancelled => exact .isCancelled (Bool.le_refl _) he
  | cancel =>
    rw [Machine.cancel_cancelled] at he
    exact .cancel he
  | sleepUntil => exact .sleepUntil (Bool.le_refl _) he
  | waitCancelled _ hc =>
    -- the run is cancelled: the wait tells so at once
    rw [← hc] at he
    exact .waitUntil (Bool.le_refl _) he
  | waitElapsed _ hc =>
    -- its time has come and the run goes on
    rw [← hc] at he
    exact .waitUntil (Bool.le_refl _) he
  | draw =>
    rw [Machine.draw_cancelled] at he
    exact .draw _ (Bool.le_refl _) he

end Program

namespace Thread

mutual

/-- What a thread still has to do, as a program: a fork under way is the fork of what its
branches still have to do. -/
def program : Thread σ β τ → Program σ β τ
  | .running p => p
  | .forked ths next => .fork (programs ths) next

/-- What threads still have to do, in order. -/
def programs : List (Thread σ β τ) → List (Program σ β τ)
  | [] => []
  | th :: ths => th.program :: programs ths

end

@[simp] theorem program_running (p : Program σ β τ) : (running p).program = p := by
  simp [program]

theorem programs_eq_map (ths : List (Thread σ β τ)) : programs ths = ths.map program := by
  induction ths with
  | nil => simp [programs]
  | cons th ths ih => simp [programs, ih]

@[simp] theorem program_forked (ths : List (Thread σ β τ)) (next : List β → Program σ β τ) :
    (forked ths next).program = .fork (ths.map program) next := by
  simp [program, programs_eq_map]

/-- Settled branches may settle with their values. -/
theorem settled?_ends {c : Bool} {ths : List (Thread σ β τ)} {rs : List β}
    (h : settled? ths = some rs) : Program.EndsAll c (ths.map program) rs c := by
  fun_induction settled? ths generalizing rs with
  | case1 =>
    simp only [Option.some.injEq] at h
    subst h
    exact .nil
  | case2 b rest ih =>
    simp only [Option.map_eq_some_iff] at h
    obtain ⟨rs', h', rfl⟩ := h
    exact .cons (.settle (Bool.le_refl _)) (ih h')
  | case3 => simp at h

open Program in
/-- **A move of a thread keeps to what the program it stands for may do.** -/
theorem Move.ends {x y : Machine σ × Thread σ β τ} (h : Move x y) :
    ∀ {z : β ⊕ τ} {e : Bool}, Ends y.1.cancelled y.2.program z e →
      Ends x.1.cancelled x.2.program z e := by
  induction h with
  | step h => exact fun he => step_ends h he
  | pause => exact fun he => .pause (Bool.le_refl _) he
  | fork => intro z e he; simpa [Function.comp_def] using he
  | join hrs =>
    intro z e he
    simp only [program_forked]
    exact .fork (Bool.le_refl _) (Bool.le_refl _) (settled?_ends hrs) he
  | @branch m m' b b' pre post next hm ih =>
    intro z e he
    simp only [program_forked, List.map_append, List.map_cons] at he ⊢
    cases he with
    | fork h₀ hj hb hnext =>
      -- the branch that moved is taken back by the move; its siblings start from the earlier flag
      have hle : m.cancelled ≤ m'.cancelled := hm.cancelled_le
      obtain ⟨rs₁, r, rs₂, rfl, h₁, hb', h₂⟩ := EndsAll.split hb
      refine .fork (Bool.le_refl _) (Bool.le_trans hle (Bool.le_trans h₀ hj)) ?_ hnext
      exact EndsAll.append (h₁.lower (Bool.le_trans hle h₀))
        (.cons (ih (hb'.lower h₀)) (h₂.lower (Bool.le_trans hle h₀)))

end Thread

namespace Machine

open Program

/-- **A step of a run keeps to what the thread may do.** -/
theorem Step.ends {x y : Config σ β τ} (h : Step x y) {z : β ⊕ τ} {e : Bool}
    (he : Ends y.1.cancelled y.2.1.program z e) : Ends x.1.cancelled x.2.1.program z e := by
  have hle := h.cancelled_le
  cases h with
  | move hm => exact hm.ends he
  | happen => exact he.lower hle
  | tick => exact he.lower hle

/-- Steps that reach an answer keep to what the thread may end with. -/
theorem Steps.ends {m m' : Machine σ} {th : Thread σ β τ} {hs hs' : List (Nat × Happening σ)}
    {a : τ} (h : Steps (m, th, hs) (m', .running (.finish a), hs')) :
    th.program.Ends m.cancelled (.inr a) m'.cancelled := by
  generalize hc : ((m, th, hs) : Config σ β τ) = c at h
  induction h using ReflTransGen.head_induction_on generalizing m th hs with
  | refl =>
    cases hc
    exact .finish (Bool.le_refl _)
  | @head c c₁ hstep _ ih =>
    subst hc
    obtain ⟨m₁, th₁, hs₁⟩ := c₁
    exact hstep.ends (ih rfl)

end Machine

/-- **Every answer the machine gives is one that the program may end with**, from the flag it
started with to the flag it ended with, whatever fuel the machine had. -/
theorem Program.run_ends {p : Program σ β τ} {m m' : Machine σ} {hs : List (Nat × Happening σ)}
    {a : τ} (h : p.run m hs = (m', some a)) : p.Ends m.cancelled (.inr a) m'.cancelled := by
  obtain ⟨hs', hsteps⟩ := Machine.run_steps h
  simpa using hsteps.ends

end Rollout
