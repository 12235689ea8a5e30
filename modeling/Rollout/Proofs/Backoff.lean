import Mathlib
import Rollout.Retry.Policy
/-!
# The backoff law

Without jitter the delay after failed attempt `a` is computed in 64-bit words: the power
`2 ^ (a - 1)` saturates at the largest word from exponent 64 on, its product with the base
saturates too, and the cap is applied last. A saturation only ever replaces a value that
already exceeds every word, and so every cap that is itself a word: the delay is the exact law
`min max (base * 2 ^ (max a 1 - 1))` over unbounded naturals, for every base, every attempt and
every cap that fits a word.

With jitter the capped delay `c` is spread over a window of half-width `r = max (c / 4) 1`:
a random word `w` gives `c - r + w mod 2r`, the subtraction and the sum saturating. Doubling `r`
never saturates, so the modulus is never zero, and the window is `[c - r, c + r)` for every
`c ≥ 1`. At `c = 0` the subtraction saturates at zero and the window moves up to `{0, 1}`.

* `satMul_pow2Sat`: saturating the power and then the product saturates the exact product;
* `backoff_exact_law`: **the delay follows the exact law, grows with the attempt and never
  exceeds the cap.**
* `backoff_jitter_window`: **with jitter the delay stays in the window around the capped delay,
  within a quarter of it either way from 4 ms on;** `backoff_zero_base_reaches_window_end`: at a
  capped delay of zero an odd word reaches the end of the window.
-/

namespace Rollout.RetryPolicy

/-- The saturated power is the exact power cut at the largest word. -/
theorem pow2Sat_eq_min (k : Nat) : pow2Sat k = min (2 ^ k) wordMax := by
  unfold pow2Sat wordMax
  split
  · case isTrue hk =>
    have : 2 ^ k ≤ 2 ^ 63 := Nat.pow_le_pow_right (by decide) (by omega)
    have : 2 ^ 63 < 2 ^ 64 - 1 := by decide
    omega
  · case isFalse hk =>
    have : 2 ^ 64 ≤ 2 ^ k := Nat.pow_le_pow_right (by decide) (by omega)
    omega

/-- Saturating the power and then the product is saturating the exact product: the product
saturates only once the power did and the base is not zero, and then the exact product exceeds
every word too. -/
theorem satMul_pow2Sat (b k : Nat) : satMul b (pow2Sat k) = min (b * 2 ^ k) wordMax := by
  rw [satMul, pow2Sat_eq_min]
  by_cases hk : 2 ^ k ≤ wordMax
  · rw [Nat.min_eq_left hk]
  · rw [Nat.min_eq_right (Nat.le_of_not_le hk)]
    cases b with
    | zero => simp
    | succ b =>
      -- both products reach the largest word, so both saturate
      have h₁ : wordMax ≤ (b + 1) * wordMax := Nat.le_mul_of_pos_left _ (Nat.succ_pos b)
      have h₂ : 2 ^ k ≤ (b + 1) * 2 ^ k := Nat.le_mul_of_pos_left _ (Nat.succ_pos b)
      omega

/-- With a cap that fits a word, the capped delay is the exact law. -/
theorem cappedBackoff_eq {p : RetryPolicy} (hmax : p.maxBackoffMs ≤ wordMax) (attempt : Nat) :
    p.cappedBackoff attempt =
      min p.maxBackoffMs (p.baseBackoffMs * 2 ^ (max attempt 1 - 1)) := by
  have e : max attempt 1 - 1 = attempt - 1 := by omega
  rw [cappedBackoff, satMul_pow2Sat, e]
  generalize p.baseBackoffMs * 2 ^ (attempt - 1) = x
  omega

/-- The capped delay grows with the attempt, whatever the cap. -/
theorem cappedBackoff_mono (p : RetryPolicy) : Monotone p.cappedBackoff := by
  intro a b hab
  have hexp : 2 ^ (a - 1) ≤ 2 ^ (b - 1) := Nat.pow_le_pow_right (by decide) (by omega)
  have hpow : pow2Sat (a - 1) ≤ pow2Sat (b - 1) := by
    rw [pow2Sat_eq_min, pow2Sat_eq_min]
    omega
  have hmul : satMul p.baseBackoffMs (pow2Sat (a - 1)) ≤ satMul p.baseBackoffMs (pow2Sat (b - 1)) := by
    have := Nat.mul_le_mul_left p.baseBackoffMs hpow
    unfold satMul
    omega
  unfold cappedBackoff
  omega

/-- Without jitter the delay is the capped delay, whatever word is drawn. -/
theorem backoff_of_useJitter_false {p : RetryPolicy} (hj : p.useJitter = false) (attempt word : Nat) :
    p.backoff attempt word = p.cappedBackoff attempt := by
  simp [backoff, hj]

/-- **The backoff law.** Without jitter and with a cap that fits a word, the delay after
attempt `a` is `min max (base * 2 ^ (max a 1 - 1))` over unbounded naturals, for every base and
every attempt; so it grows with the attempt and never exceeds the cap. -/
theorem backoff_exact_law (p : RetryPolicy) (hj : p.useJitter = false)
    (hmax : p.maxBackoffMs ≤ wordMax) :
    (∀ attempt word, p.backoff attempt word =
      min p.maxBackoffMs (p.baseBackoffMs * 2 ^ (max attempt 1 - 1))) ∧
    (∀ word, Monotone fun attempt => p.backoff attempt word) ∧
    ∀ attempt word, p.backoff attempt word ≤ p.maxBackoffMs := by
  refine ⟨fun attempt word => ?_, fun word a b hab => ?_, fun attempt word =>
    backoff_le_max p attempt word hj⟩
  · rw [backoff_of_useJitter_false hj, cappedBackoff_eq hmax]
  · simp only [backoff_of_useJitter_false hj]
    exact cappedBackoff_mono p hab

/-- Seventy attempts at a base of `2 ^ 63`: the power and the product both saturate, and the
delay is still the exact law, here the largest word. -/
theorem backoff_saturating_twice :
    let p : RetryPolicy := ⟨none, 2 ^ 63, wordMax, false⟩
    p.useJitter = false ∧ p.maxBackoffMs ≤ wordMax ∧ p.backoff 70 0 = wordMax := by
  intro p
  refine ⟨rfl, Nat.le_refl _, ?_⟩
  rw [(backoff_exact_law p rfl (Nat.le_refl _)).1 70 0]
  decide

example : (RetryPolicy.new none 100 1000).withoutJitter.backoff 4 7 = 800 := by decide

/-! ### The jitter window -/

/-- The capped delay fits a word, whatever the cap: the saturated product does. -/
theorem cappedBackoff_le_wordMax (p : RetryPolicy) (attempt : Nat) :
    p.cappedBackoff attempt ≤ wordMax := by
  unfold cappedBackoff satMul
  omega

/-- The half-width of the window around a delay that fits a word is at least one, and twice it
still fits a word. -/
theorem jitterRange_bounds {c : Nat} (hc : c ≤ wordMax) :
    1 ≤ jitterRange c ∧ 2 * jitterRange c ≤ wordMax := by
  unfold jitterRange wordMax at *
  omega

/-- Doubling the half-width never saturates. -/
theorem satMul_jitterRange {c : Nat} (hc : c ≤ wordMax) :
    satMul (jitterRange c) 2 = 2 * jitterRange c := by
  have := (jitterRange_bounds hc).2
  unfold satMul
  omega

/-- With jitter the delay is the saturating sum of the saturating `c - r` and the word modulo
`2r`. -/
theorem backoff_of_useJitter_true {p : RetryPolicy} (hj : p.useJitter = true) (attempt word : Nat) :
    p.backoff attempt word =
      min (p.cappedBackoff attempt - jitterRange (p.cappedBackoff attempt) +
        word % (2 * jitterRange (p.cappedBackoff attempt))) wordMax := by
  simp only [backoff, hj, if_true, satMul_jitterRange (cappedBackoff_le_wordMax p attempt)]

/-- The window around a delay `c` that fits a word: whatever the word, the saturating
`c - r + w mod 2r` is at least `c - r` and fits a word; it is below `c + r` when `c` is not zero
(the sum saturates only past `c + r`), within a quarter of `c` either way from `c = 4` on, and
the word's parity at `c = 0`. -/
theorem jitter_window {c : Nat} (hc : c ≤ wordMax) (w : Nat) :
    let r := jitterRange c
    let d := min (c - r + w % (2 * r)) wordMax
    c - r ≤ d ∧ d ≤ wordMax ∧ (0 < c → d < c + r) ∧
      (4 ≤ c → 3 * c ≤ 4 * d ∧ 4 * d < 5 * c) ∧ (c = 0 → d = w % 2) := by
  intro r d
  have hr : 1 ≤ r ∧ 2 * r ≤ wordMax := jitterRange_bounds hc
  have hmod : w % (2 * r) < 2 * r := Nat.mod_lt _ (by omega)
  have hd : d = min (c - r + w % (2 * r)) wordMax := rfl
  -- from one millisecond on the half-width is at most the delay, so `c - r` is exact
  have hrc : 0 < c → r ≤ c := fun h => by
    change max (c / 4) 1 ≤ c
    omega
  have hquarter : 4 ≤ c → r = c / 4 := fun h => by
    change max (c / 4) 1 = c / 4
    omega
  refine ⟨by omega, by omega, fun h => by have := hrc h; omega, fun h => ?_, fun h => ?_⟩
  · have := hquarter h
    omega
  · subst h
    have hr0 : r = 1 := rfl
    have : w % 2 < 2 := Nat.mod_lt _ (by decide)
    rw [hd, hr0]
    unfold wordMax
    omega

/-- **The jitter window.** With jitter on, for every attempt and every random word: the modulus
of the jitter is exactly `2r` for the half-width `r = max (c / 4) 1` around the capped delay `c`,
so it is never zero; the delay fits a word and is at least `c - r`. It is below `c + r` whenever
`c` is not zero, hence within a quarter of `c` either way once `c ≥ 4`. At `c = 0` the saturating
subtraction lifts the window to `{0, 1}`: the delay is the word's parity. -/
theorem backoff_jitter_window (p : RetryPolicy) (hj : p.useJitter = true) (attempt word : Nat) :
    let c := p.cappedBackoff attempt
    let r := jitterRange c
    let d := p.backoff attempt word
    satMul r 2 = 2 * r ∧ 0 < satMul r 2 ∧ c - r ≤ d ∧ d ≤ wordMax ∧ (0 < c → d < c + r) ∧
      (4 ≤ c → 3 * c ≤ 4 * d ∧ 4 * d < 5 * c) ∧ (c = 0 → d = word % 2) := by
  intro c r d
  have hc : c ≤ wordMax := cappedBackoff_le_wordMax p attempt
  have hmul : satMul r 2 = 2 * r := satMul_jitterRange hc
  have hd : d = min (c - r + word % (2 * r)) wordMax := backoff_of_useJitter_true hj attempt word
  obtain ⟨hlo, hword, hhi, hquarter, hzero⟩ := jitter_window hc word
  rw [hd, hmul]
  exact ⟨rfl, by have := (jitterRange_bounds hc).1; omega, hlo, hword, hhi, hquarter, hzero⟩

/-- The policy of the quarter test, 400 ms without doubling, and the largest word: the delay is
in `[300, 500)`. -/
theorem backoff_largest_word_in_window :
    let p := RetryPolicy.new none 400 400
    p.useJitter = true ∧ 300 ≤ p.backoff 1 wordMax ∧ p.backoff 1 wordMax < 500 := by
  intro p
  have hc : p.cappedBackoff 1 = 400 := by decide
  have hr : jitterRange 400 = 100 := by decide
  obtain ⟨-, -, hlo, -, hhi, -, -⟩ := backoff_jitter_window p rfl 1 wordMax
  rw [hc, hr] at hlo hhi
  exact ⟨rfl, hlo, hhi (by decide)⟩

/-- A base of zero makes the capped delay zero and the window `{0, 1}`: an odd word gives a delay
of one, which is `c + r`, so the delay is not below `c + r`. -/
theorem backoff_zero_base_reaches_window_end :
    let p := RetryPolicy.new none 0 0
    p.useJitter = true ∧ p.cappedBackoff 1 = 0 ∧
      ¬ p.backoff 1 1 < p.cappedBackoff 1 + jitterRange (p.cappedBackoff 1) := by
  decide

end Rollout.RetryPolicy
