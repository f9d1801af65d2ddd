import Mathlib.Tactic.GCongr
import Mathlib.Tactic.Positivity
import VehicleLink.Proofs.Number.Binary
import VehicleLink.Proofs.Number.Decimal

/-!
# Proofs/Number/Reread — decimals that are read and printed again

A number that is printed and read is rounded twice: to the decimals, and from these to the format.
The second rounding goes to the value nearest to the decimals, and the number itself is one of the
values to choose from, so what is read is no further away from the decimals than the number was
(`IsWide.round_near`).  Hence it has the same decimals (`RoundsTo.of_le`), and only the sign can
change: a number below zero that is rounded to zero reads as zero (`Binary.LosesSign`).
-/

namespace VehicleLink

/-- How many units of the last of so many decimal places a number is rounded to. -/
def decimalUnits (places : ℕ) (q : ℚ) : ℕ := nearest (q * 10 ^ places)

theorem nearest_pow_ten (places : ℕ) (q : ℚ) :
    nearest (q * ((Nat.pow 10 places : ℕ) : ℚ)) = decimalUnits places q := by
  rw [decimalUnits, Nat.pow_eq, Nat.cast_pow, Nat.cast_ofNat]

theorem roundsTo_decimalUnits (places : ℕ) {q : ℚ} (hq : 0 ≤ q) :
    RoundsTo (q * 10 ^ places) (decimalUnits places q) :=
  roundsTo_nearest (by positivity)

theorem decimalUnits_eq_zero_iff (places : ℕ) {q : ℚ} (hq : 0 ≤ q) :
    decimalUnits places q = 0 ↔ q * 10 ^ places ≤ 1 / 2 := by
  have hscaled : 0 ≤ q * 10 ^ places := by positivity
  rw [decimalUnits, nearest_eq_iff hscaled]
  constructor
  · intro h
    have hhalf := h.half
    rwa [Nat.cast_zero, zero_sub, abs_neg, abs_of_nonneg hscaled] at hhalf
  · intro h
    refine ⟨?_, fun _ => rfl⟩
    rwa [Nat.cast_zero, zero_sub, abs_neg, abs_of_nonneg hscaled]

/-- The digits printed are those of the units. -/
theorem fixedDigits_congr {places : ℕ} {q r : ℚ}
    (h : decimalUnits places q = decimalUnits places r) :
    fixedDigits places q = fixedDigits places r := by
  rw [fixedDigits, fixedDigits, nearest_pow_ten, nearest_pow_ten, h]

/-! ## Reading decimals -/

namespace Numeral

theorem scaled_neg (digits places : ℕ) :
    scaled digits (-(places : ℤ)) = (digits : ℚ) / 10 ^ places := by
  cases places with
  | zero =>
    have hzero : -((0 : ℕ) : ℤ) = .ofNat 0 := rfl
    rw [hzero, scaled, Nat.pow_eq, pow_zero, pow_zero, Nat.mul_one, div_one]
  | succ places =>
    have hsucc : -((places + 1 : ℕ) : ℤ) = .negSucc places := rfl
    rw [hsucc, scaled, Rat.mkRat_eq_div, Nat.pow_eq, Int.cast_natCast, Nat.cast_pow,
      Nat.cast_ofNat]

variable {format : BinaryFormat}

/-- Digits so far behind the point that they are settled by their size are too small for half the
least positive value. -/
theorem scaled_lt_half (h : format.IsWide) {digits places : ℕ}
    (hfar : (digits.log2 : ℤ) + 1 + 3 * -(places : ℤ) < -((2 ^ format.exponentBits : ℕ) : ℤ)) :
    (digits : ℚ) / 10 ^ places * format.scale < 1 / 2 := by
  have hbits := h.two_pow_exponentBits
  have hwide : format.fractionBits + 1 < 2 ^ (format.exponentBits - 1) := h
  have hdigits : digits < 2 ^ (digits.log2 + 1) := Nat.lt_log2_self
  have hscaled : digits * format.scale * 2 < 10 ^ places := calc
    digits * format.scale * 2 < 2 ^ (digits.log2 + 1) * format.scale * 2 := by
      have hscale : 0 < format.scale := by exact_mod_cast format.scale_pos
      gcongr
    _ = 2 ^ (digits.log2 + 1 + (2 ^ (format.exponentBits - 1) - 2 + format.fractionBits) + 1) := by
      rw [format.scale_eq, ← Nat.pow_add, ← Nat.pow_succ]
    _ ≤ 2 ^ (3 * places) := Nat.pow_le_pow_right (by decide) (by omega)
    _ = 8 ^ places := Nat.pow_mul 2 3 places
    _ ≤ 10 ^ places := Nat.pow_le_pow_left (by decide) places
  have hcast : (digits : ℚ) * format.scale * 2 < 10 ^ places := by exact_mod_cast hscaled
  rw [div_mul_eq_mul_div, div_lt_div_iff₀ (by positivity) two_pos, one_mul]
  exact hcast

/-- **Decimals are read as the code nearest to them.** -/
theorem code_neg (h : format.IsWide) (digits places : ℕ) :
    code format digits (-(places : ℤ)) = format.round ((digits : ℚ) / 10 ^ places) := by
  have hnonneg : (0 : ℚ) ≤ (digits : ℚ) / 10 ^ places := by positivity
  simp only [code, Nat.pow_eq]
  split
  · next hzero =>
    rw [BinaryFormat.round_eq_zero hnonneg]
    rw [hzero, Nat.cast_zero, zero_div, zero_mul]
    exact one_half_pos
  · split
    · next hreach =>
      have hpos : 0 < 2 ^ format.exponentBits := Nat.two_pow_pos _
      omega
    · split
      · next hfar => rw [BinaryFormat.round_eq_zero hnonneg (scaled_lt_half h hfar)]
      · rw [scaled_neg]

end Numeral

/-! ## Printing again -/

namespace BinaryFormat

variable {format : BinaryFormat}

/-- **A finite value is read from its decimals as a finite value with the same decimals.** -/
theorem IsWide.round_decimals (h : format.IsWide) {code : ℕ} (hcode : code < format.infinity)
    {decimals places : ℕ} (hround : RoundsTo (format.magnitude code * 10 ^ places) decimals) :
    format.round (decimals / 10 ^ places) < format.infinity ∧
      RoundsTo (format.magnitude (format.round (decimals / 10 ^ places)) * 10 ^ places)
        decimals := by
  have hpow : (1 : ℚ) ≤ 10 ^ places := one_le_pow₀ (by norm_num)
  have hpos : (0 : ℚ) < 10 ^ places := by positivity
  have hdist (q : ℚ) : |(decimals : ℚ) - q * 10 ^ places|
      = |q - decimals / 10 ^ places| * 10 ^ places := by
    rw [abs_sub_comm, abs_mul_sub hpos]
  have hnear : |format.magnitude code - decimals / 10 ^ places| ≤ 1 / 2 := by
    have hhalf := hround.half
    rw [hdist] at hhalf
    exact (le_mul_of_one_le_right (abs_nonneg _) hpow).trans hhalf
  obtain ⟨hfinite, hle⟩ := h.round_near (by positivity) hcode hnear
  refine ⟨hfinite, hround.of_le ?_⟩
  rw [hdist, hdist]
  exact mul_le_mul_of_nonneg_right hle hpos.le

end BinaryFormat

namespace Binary

variable {format : BinaryFormat}

theorem toList_fixed {x : Binary format} (hx : x.code < format.infinity) (places width : ℕ) :
    (x.fixed places width).toList = (if x.isBelowZero then ['-'] else [])
      ++ (fixedDigits places (format.magnitude x.code)).leftpad width '0' := by
  have hdatum : x.datum = .finite x.signBit (format.magnitude x.code) := if_pos hx
  rw [fixed, hdatum, String.toList_ofList]

/-- Whether a number below zero is rounded to zero when it is printed with so many decimals. -/
def LosesSign (places : ℕ) (x : Binary format) : Prop :=
  x.value < 0 ∧ |x.value| * 10 ^ places ≤ 1 / 2

instance (places : ℕ) (x : Binary format) : Decidable (x.LosesSign places) :=
  inferInstanceAs (Decidable (_ ∧ _))

/-- What a number is read as from its decimals. -/
def reread (places : ℕ) (x : Binary format) : Binary format :=
  ofCode x.isBelowZero
    (format.round (decimalUnits places (format.magnitude x.code) / 10 ^ places))

theorem toBinary_eq_reread (h : format.IsWide) (x : Binary format) (places : ℕ) :
    Numeral.toBinary format (.finite x.isBelowZero
      (nearest (format.magnitude x.code * ((Nat.pow 10 places : ℕ) : ℚ))) (-(places : ℤ)))
      = x.reread places := by
  rw [nearest_pow_ten, Numeral.toBinary, Numeral.code_neg h, reread]

section Finite

variable (h : format.IsWide) {x : Binary format} (hx : x.code < format.infinity) (places : ℕ)

include h hx

theorem losesSign_iff :
    x.LosesSign places ↔ x.isBelowZero ∧ decimalUnits places (format.magnitude x.code) = 0 := by
  rw [LosesSign, x.isBelowZero_iff h hx, abs_value h,
    decimalUnits_eq_zero_iff places (format.magnitude_nonneg _)]

theorem round_decimalUnits_lt :
    format.round (decimalUnits places (format.magnitude x.code) / 10 ^ places)
      < format.infinity :=
  (h.round_decimals hx (roundsTo_decimalUnits places (format.magnitude_nonneg x.code))).1

theorem code_reread : (x.reread places).code
    = format.round (decimalUnits places (format.magnitude x.code) / 10 ^ places) :=
  code_ofCode _ ((round_decimalUnits_lt h hx places).trans (infinity_lt format))

theorem signBit_reread : (x.reread places).signBit = x.isBelowZero :=
  signBit_ofCode _ ((round_decimalUnits_lt h hx places).trans (infinity_lt format))

theorem code_reread_lt : (x.reread places).code < format.infinity := by
  rw [code_reread h hx]
  exact round_decimalUnits_lt h hx places

theorem decimalUnits_reread :
    decimalUnits places (format.magnitude (x.reread places).code)
      = decimalUnits places (format.magnitude x.code) := by
  have hround := roundsTo_decimalUnits places (format.magnitude_nonneg x.code)
  have hread := roundsTo_decimalUnits places (format.magnitude_nonneg (x.reread places).code)
  rw [code_reread h hx] at hread ⊢
  exact hread.unique (h.round_decimals hx hround).2

/-- Zero is read exactly from the decimals of zero. -/
theorem magnitude_reread_eq_zero_iff : format.magnitude (x.reread places).code = 0
    ↔ decimalUnits places (format.magnitude x.code) = 0 := by
  constructor
  · intro hzero
    rw [← decimalUnits_reread h hx, hzero, decimalUnits_eq_zero_iff places le_rfl, zero_mul]
    exact one_half_pos.le
  · intro hzero
    rw [code_reread h hx, hzero, Nat.cast_zero, zero_div, BinaryFormat.round_zero,
      BinaryFormat.magnitude_zero]

/-- The sign is read from the text, and is that of a number below zero unless all digits are zero. -/
theorem isBelowZero_reread : (x.reread places).isBelowZero
    ↔ x.isBelowZero ∧ decimalUnits places (format.magnitude x.code) ≠ 0 := by
  rw [isBelowZero_iff_signBit (code_reread_lt h hx places), signBit_reread h hx, ne_eq,
    magnitude_reread_eq_zero_iff h hx]

/-- **The sign is kept, or all digits are zero and it is lost.** -/
theorem isBelowZero_reread_of_not_losesSign (hkeeps : ¬ x.LosesSign places) :
    (x.reread places).isBelowZero = x.isBelowZero := by
  rw [losesSign_iff h hx, not_and] at hkeeps
  rw [Bool.eq_iff_iff, isBelowZero_reread h hx]
  exact and_iff_left_of_imp hkeeps

/-- It is not lost again. -/
theorem not_losesSign_reread : ¬ (x.reread places).LosesSign places := by
  rw [losesSign_iff h (code_reread_lt h hx places), isBelowZero_reread h hx,
    decimalUnits_reread h hx]
  exact fun hloses => hloses.1.2 hloses.2

/-- **What is read from a number's text has the same text**, unless the sign is lost. -/
theorem fixed_reread (width : ℕ) (hkeeps : ¬ x.LosesSign places) :
    (x.reread places).fixed places width = x.fixed places width := by
  have hdigits := fixedDigits_congr (decimalUnits_reread h hx places)
  rw [← String.toList_inj, toList_fixed (code_reread_lt h hx places), toList_fixed hx, hdigits,
    isBelowZero_reread_of_not_losesSign h hx places hkeeps]

/-- **If it is lost, the text is the same behind the sign.** -/
theorem toList_fixed_reread (width : ℕ) (hloses : x.LosesSign places) :
    (x.fixed places width).toList = '-' :: ((x.reread places).fixed places width).toList := by
  have hdigits := fixedDigits_congr (decimalUnits_reread h hx places)
  obtain ⟨hbelow, hzero⟩ := (losesSign_iff h hx places).mp hloses
  have hnot : ¬ (x.reread places).isBelowZero := by
    rw [isBelowZero_reread h hx]
    exact fun hread => hread.2 hzero
  rw [toList_fixed (code_reread_lt h hx places), toList_fixed hx, hdigits, if_pos hbelow,
    if_neg hnot]
  rfl

end Finite

end Binary

end VehicleLink
