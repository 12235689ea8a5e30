import Mathlib
import Rollout.Threshold
/-!
# The count a threshold requires

A percentage of `h` hundredths asks, out of `total` items, for the product `total * h`
saturated at the largest 64-bit word, divided by `full` and rounded up: the least `r` whose
`full * r` reaches the saturated product. Below saturation that is the least `r` with
`full * r ≥ total * h`, the exact ceiling of the percentage. Saturation only lowers the product,
so a percentage of at most 100% never asks for more than the whole population, however large.
Everything else follows from the ceiling being least: the count required grows with the total and
with the percentage, so a threshold met stays met with more items counted, fewer items in all, or
a lower percentage.

Main statements:

* `required_isLeast`: **the count required is the least one whose share reaches the saturated
  product**;
* `required_le_total`: **a percentage of at most 100% never asks for more than the whole**;
* `required_is_least_and_monotone`: the ceiling law, the bound, and the monotonicity of `isMet`.
-/

namespace Rollout.Threshold

open Number

/-! ### The ceiling -/

/-- The share of the count required reaches the saturated product. -/
theorem le_full_mul_required (h total : Nat) :
    min (total * h) u64Max ≤ full * (percentage h).required total := by
  rw [required_percentage]
  generalize min (total * h) u64Max = x
  simp only [full]
  omega

/-- No smaller count reaches it. -/
theorem required_le_of_le_full_mul {h total r : Nat} (hr : min (total * h) u64Max ≤ full * r) :
    (percentage h).required total ≤ r := by
  rw [required_percentage]
  generalize min (total * h) u64Max = x at hr
  simp only [full] at hr ⊢
  omega

/-- **The count required is the least one whose share reaches the saturated product**: the
product rounded up to whole items. -/
theorem required_isLeast (h total : Nat) :
    IsLeast {r | min (total * h) u64Max ≤ full * r} ((percentage h).required total) :=
  ⟨le_full_mul_required h total, fun _ hr => required_le_of_le_full_mul hr⟩

/-- Below saturation, the count required is the least one whose share reaches the product. -/
theorem required_isLeast_of_le {h total : Nat} (hs : total * h ≤ u64Max) :
    IsLeast {r | total * h ≤ full * r} ((percentage h).required total) := by
  have e : min (total * h) u64Max = total * h := Nat.min_eq_left hs
  simpa only [e] using required_isLeast h total

/-! ### Monotonicity -/

/-- A count required by a smaller saturated product is no larger. -/
theorem required_le_required {h h' total total' : Nat}
    (hle : min (total' * h') u64Max ≤ min (total * h) u64Max) :
    (percentage h').required total' ≤ (percentage h).required total :=
  required_le_of_le_full_mul (Nat.le_trans hle (le_full_mul_required h total))

theorem required_mono_total {h total total' : Nat} (ht : total' ≤ total) :
    (percentage h).required total' ≤ (percentage h).required total := by
  have := Nat.mul_le_mul_right h ht
  exact required_le_required (by omega)

theorem required_mono_hundredths {h h' total : Nat} (hh : h' ≤ h) :
    (percentage h').required total ≤ (percentage h).required total := by
  have := Nat.mul_le_mul_left total hh
  exact required_le_required (by omega)

/-- **A percentage of at most 100% never asks for more than the whole**, saturated or not:
saturation only lowers the product, which is at most `full * total`. -/
theorem required_le_total {h : Nat} (total : Nat) (hh : h ≤ full) :
    (percentage h).required total ≤ total := by
  apply required_le_of_le_full_mul
  calc min (total * h) u64Max ≤ total * h := Nat.min_le_left _ _
    _ ≤ total * full := Nat.mul_le_mul_left total hh
    _ = full * total := Nat.mul_comm _ _

/-! ### Meeting a threshold -/

theorem isMet_iff {t : Threshold} {count total : Nat} :
    t.isMet count total = true ↔ t.required total ≤ count := by
  simp [isMet]

theorem isMet_of_le {t : Threshold} {count count' total : Nat} (hc : count ≤ count')
    (h : t.isMet count total = true) : t.isMet count' total = true :=
  isMet_iff.2 (Nat.le_trans (isMet_iff.1 h) hc)

theorem isMet_of_total_le {h count total total' : Nat} (ht : total' ≤ total)
    (hm : (percentage h).isMet count total = true) : (percentage h).isMet count total' = true :=
  isMet_iff.2 (Nat.le_trans (required_mono_total ht) (isMet_iff.1 hm))

theorem isMet_of_hundredths_le {h h' count total : Nat} (hh : h' ≤ h)
    (hm : (percentage h).isMet count total = true) : (percentage h').isMet count total = true :=
  isMet_iff.2 (Nat.le_trans (required_mono_hundredths hh) (isMet_iff.1 hm))

/-- **The count a threshold requires.** A percentage requires the saturated product of total and
hundredths divided by `full` and rounded up (the least count whose share reaches it), which below
saturation is the least count whose share reaches the exact product; at most 100% it never
requires more than the total, so the whole population always meets it; a count requires itself;
and a threshold met stays met with more items counted, and for a percentage with a smaller total
or fewer hundredths. -/
theorem required_is_least_and_monotone :
    (∀ h total, IsLeast {r | min (total * h) u64Max ≤ full * r} ((percentage h).required total)) ∧
    (∀ h total, total * h ≤ u64Max →
      IsLeast {r | total * h ≤ full * r} ((percentage h).required total)) ∧
    (∀ h total, h ≤ full →
      (percentage h).required total ≤ total ∧ (percentage h).isMet total total = true) ∧
    (∀ n total, (absolute n).required total = n) ∧
    (∀ (t : Threshold) count count' total, count ≤ count' →
      t.isMet count total = true → t.isMet count' total = true) ∧
    (∀ h count total total', total' ≤ total →
      (percentage h).isMet count total = true → (percentage h).isMet count total' = true) ∧
    (∀ h h' count total, h' ≤ h →
      (percentage h).isMet count total = true → (percentage h').isMet count total = true) :=
  ⟨required_isLeast, fun _ _ hs => required_isLeast_of_le hs,
    fun _ total hh => ⟨required_le_total total hh, isMet_iff.2 (required_le_total total hh)⟩,
    required_absolute, fun _ _ _ _ hc hm => isMet_of_le hc hm,
    fun _ _ _ _ ht hm => isMet_of_total_le ht hm, fun _ _ _ _ hh hm => isMet_of_hundredths_le hh hm⟩

/-- The largest 64-bit population, where the product saturates, meets 100% with all of it. -/
theorem required_saturated_population :
    full ≤ full ∧ (percentage full).required u64Max ≤ u64Max ∧
      (percentage full).isMet u64Max u64Max = true :=
  ⟨Nat.le_refl _, required_is_least_and_monotone.2.2.1 full u64Max (Nat.le_refl _)⟩

end Rollout.Threshold
