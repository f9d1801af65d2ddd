import Mathlib.Algebra.Order.Field.Rat
import Mathlib.Algebra.Order.Ring.Abs
import Mathlib.Data.Rat.Cast.Order
import Mathlib.Tactic.Linarith
import VehicleLink.Number.Rounding

/-!
# Proofs/Number/Nearest — the nearest whole number is the one that is nearest

`RoundsTo q n` says that `n` is at most a half from `q`, and even if it is exactly a half away.
There is one such number (`RoundsTo.unique`), it is the one that `nearest` computes
(`nearest_eq_iff`), and no other whole number is nearer (`RoundsTo.nearest_le`).  In steps of another
size it gives the nearest multiple of a step (`RoundsTo.nearestMultiple`).
-/

namespace VehicleLink

/-- Distances in steps, and as they are. -/
theorem abs_mul_sub {step : ℚ} (hstep : 0 < step) (a q : ℚ) :
    |a * step - q| = |a - q / step| * step := by
  rw [← abs_of_pos hstep, ← abs_mul, abs_of_pos hstep, sub_mul, div_mul_cancel₀ _ hstep.ne']

/-- Whether `q` is rounded to `n`: at most a half away, and exactly a half only if `n` is even. -/
structure RoundsTo (q : ℚ) (n : ℕ) : Prop where
  half : |(n : ℚ) - q| ≤ 1 / 2
  even : |(n : ℚ) - q| = 1 / 2 → n % 2 = 0

/-- Whether `n` steps are the multiple of a step that is nearest to `q`: none is nearer, and of two
that are as near it is the even one. -/
structure NearestMultiple (step q : ℚ) (n : ℤ) : Prop where
  least : ∀ k : ℤ, |n * step - q| ≤ |k * step - q|
  even_of_tie : ∀ k : ℤ, k ≠ n → |k * step - q| = |n * step - q| → n % 2 = 0

namespace RoundsTo

variable {q : ℚ} {m n : ℕ}

/-- A whole number other than `n` is at least as far away as `n`, and a half away if it is as near. -/
theorem half_le_abs_sub (h : RoundsTo q n) {k : ℤ} (hk : k ≠ n) : 1 / 2 ≤ |(k : ℚ) - q| := by
  have hapart : (1 : ℚ) ≤ |(k : ℚ) - n| := by
    have hone : (1 : ℤ) ≤ |k - n| := Int.one_le_abs (sub_ne_zero.mpr hk)
    exact_mod_cast hone
  have htriangle : |(k : ℚ) - n| ≤ |(k : ℚ) - q| + |(n : ℚ) - q| := by
    have hsum := abs_sub_le (k : ℚ) q n
    rwa [abs_sub_comm q n] at hsum
  linarith [h.half]

/-- **No whole number is nearer.** -/
theorem nearest_le (h : RoundsTo q n) (k : ℤ) : |(n : ℚ) - q| ≤ |(k : ℚ) - q| := by
  rcases eq_or_ne k n with rfl | hk
  · rfl
  · exact h.half.trans (h.half_le_abs_sub hk)

/-- **Of two that are as near, it is the even one.** -/
theorem even_of_tie (h : RoundsTo q n) {k : ℤ} (hk : k ≠ n)
    (htie : |(k : ℚ) - q| = |(n : ℚ) - q|) : n % 2 = 0 :=
  h.even (le_antisymm h.half (htie ▸ h.half_le_abs_sub hk))

/-- **What is at least as near to `n` is rounded to `n` as well.** -/
theorem of_le (h : RoundsTo q n) {r : ℚ} (hle : |(n : ℚ) - r| ≤ |(n : ℚ) - q|) : RoundsTo r n :=
  ⟨hle.trans h.half, fun htie => h.even (le_antisymm h.half (htie ▸ hle))⟩

/-- **Rounding in steps finds the nearest multiple of a step.** -/
theorem nearestMultiple {step : ℚ} (hstep : 0 < step) (h : RoundsTo (q / step) n) :
    NearestMultiple step q n where
  least k := by
    rw [abs_mul_sub hstep, abs_mul_sub hstep, Int.cast_natCast]
    exact mul_le_mul_of_nonneg_right (h.nearest_le k) hstep.le
  even_of_tie k hk htie := by
    rw [abs_mul_sub hstep, abs_mul_sub hstep, Int.cast_natCast] at htie
    have heven := h.even_of_tie hk (mul_right_cancel₀ hstep.ne' htie)
    omega

/-- So no number that is made of whole steps is nearer. -/
theorem nearest_of_dvd {step value : ℕ} (hstep : 0 < step) (h : RoundsTo (q / step) n)
    (hdvd : step ∣ value) : |((n * step : ℕ) : ℚ) - q| ≤ |(value : ℚ) - q| := by
  obtain ⟨k, rfl⟩ := hdvd
  have hnear := (h.nearestMultiple (Nat.cast_pos.mpr hstep)).least k
  rwa [Int.cast_natCast, Int.cast_natCast, mul_comm (k : ℚ), ← Nat.cast_mul, ← Nat.cast_mul]
    at hnear

/-- Rounding does not pass a whole number. -/
theorem le_of_le (h : RoundsTo q n) (hm : (m : ℚ) ≤ q) : m ≤ n := by
  by_contra hlt
  have hnext : (n : ℚ) + 1 ≤ m := by exact_mod_cast Nat.not_le.mp hlt
  have hbelow := (abs_le.mp h.half).1
  linarith

theorem le_of_ge (h : RoundsTo q n) (hm : q ≤ m) : n ≤ m := by
  by_contra hlt
  have hnext : (m : ℚ) + 1 ≤ n := by exact_mod_cast Nat.not_le.mp hlt
  have habove := (abs_le.mp h.half).2
  linarith

/-- **What is rounded below an even number is more than a half below it.**  A number that is exactly a
half below is rounded up to it. -/
theorem lt_iff_of_even (h : RoundsTo q n) (hm : m % 2 = 0) : n < m ↔ q < m - 1 / 2 := by
  obtain ⟨hbelow, habove⟩ := abs_le.mp h.half
  constructor
  · intro hlt
    have hnext : (n : ℚ) + 1 ≤ m := by exact_mod_cast hlt
    refine lt_of_le_of_ne (by linarith) fun htie => ?_
    have hone : (n : ℚ) + 1 = m := le_antisymm hnext (by linarith)
    have hhalf : (n : ℚ) - q = -(1 / 2) := by linarith
    have heven : n % 2 = 0 := h.even (by rw [hhalf, abs_neg, abs_of_nonneg (by norm_num)])
    have hone' : n + 1 = m := by exact_mod_cast hone
    omega
  · intro hlt
    have hlt' : (n : ℚ) < m := by linarith
    exact_mod_cast hlt'

/-- **There is only one.** -/
theorem unique (hm : RoundsTo q m) (hn : RoundsTo q n) : m = n := by
  by_contra hne
  have hmn : (m : ℤ) ≠ n := fun h => hne (Int.ofNat.inj h)
  have hnm : (n : ℤ) ≠ m := hmn.symm
  have hmhalf : |(m : ℚ) - q| = 1 / 2 := le_antisymm hm.half (hn.half_le_abs_sub hmn)
  have hnhalf : |(n : ℚ) - q| = 1 / 2 := le_antisymm hn.half (hm.half_le_abs_sub hnm)
  have hmeven := hm.even hmhalf
  have hneven := hn.even hnhalf
  -- Both are a half away, so they are one apart.
  have hapart : |(m : ℚ) - n| ≤ 1 := by
    have hsum := abs_sub_le (m : ℚ) q n
    rw [abs_sub_comm q n, hmhalf, hnhalf] at hsum
    linarith
  have hint : |(m : ℤ) - n| ≤ 1 := by exact_mod_cast hapart
  rw [abs_le] at hint
  omega

end RoundsTo

theorem roundsTo_nearestQuot (n : ℕ) {d : ℕ} (hd : 0 < d) :
    RoundsTo ((n : ℚ) / d) (nearestQuot n d) := by
  have hpos : (0 : ℚ) < d := Nat.cast_pos.mpr hd
  have hbelow : (2 : ℚ) * (nearestQuot n d * d) ≤ 2 * n + d := by
    exact_mod_cast two_mul_nearestQuot_le (n := n) hd
  have habove : (2 : ℚ) * n ≤ 2 * (nearestQuot n d * d) + d := by
    exact_mod_cast le_two_mul_nearestQuot (n := n) hd
  have hdist : |(nearestQuot n d : ℚ) - n / d| = |(nearestQuot n d : ℚ) * d - n| / d := by
    rw [eq_div_iff hpos.ne', abs_mul_sub hpos]
  constructor
  · rw [hdist, div_le_iff₀ hpos, abs_le]
    constructor <;> linarith
  · intro htie
    rw [hdist, div_eq_iff hpos.ne'] at htie
    refine nearestQuot_even hd ?_
    rcases abs_choice ((nearestQuot n d : ℚ) * d - n) with habs | habs
    · right
      rw [habs] at htie
      have hcast : (2 : ℚ) * n + d = 2 * (nearestQuot n d * d) := by linarith
      exact_mod_cast hcast
    · left
      rw [habs] at htie
      have hcast : (2 : ℚ) * n = 2 * (nearestQuot n d * d) + d := by linarith
      exact_mod_cast hcast

/-- A number in steps of `step` is rounded to a whole number of them. -/
theorem roundsTo_steps {q : ℚ} (hq : 0 ≤ q) {step : ℕ} (hstep : 0 < step) :
    RoundsTo (q / step) (nearestQuot q.num.toNat (q.den * step)) := by
  have hround := roundsTo_nearestQuot q.num.toNat (Nat.mul_pos q.den_pos hstep)
  have hnum : ((q.num.toNat : ℕ) : ℚ) = q.num := by
    have hint : ((q.num.toNat : ℕ) : ℤ) = q.num := Int.toNat_of_nonneg (Rat.num_nonneg.mpr hq)
    exact_mod_cast hint
  rwa [hnum, Nat.cast_mul, ← div_div, Rat.num_div_den] at hround

theorem roundsTo_nearest {q : ℚ} (hq : 0 ≤ q) : RoundsTo q (nearest q) := by
  have hround := roundsTo_steps hq Nat.one_pos
  rwa [Nat.cast_one, div_one, Nat.mul_one] at hround

/-- **The nearest whole number is the one that a number rounds to.** -/
theorem nearest_eq_iff {q : ℚ} (hq : 0 ≤ q) {n : ℕ} : nearest q = n ↔ RoundsTo q n :=
  ⟨fun h => h ▸ roundsTo_nearest hq, (roundsTo_nearest hq).unique⟩

end VehicleLink
