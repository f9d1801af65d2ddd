import Mathlib.Tactic.Ring
import VehicleLink.Number.Binary
import VehicleLink.Proofs.Number.Nearest

/-!
# Proofs/Number/Binary — a binary format rounds to the nearest of its values

Codes are in the order of the values (`units_strictMono`), also past the code of infinity, where the
values go on as if the exponent had no end.  Rounding first finds the code that is nearest among all
of these (`units_roundUnbounded_nearest`) and then cuts it down to infinity.  A number that is close
enough to a finite value of a wide format is therefore rounded to a finite value, and to none that is
further away (`IsWide.round_near`).
-/

namespace VehicleLink

namespace BinaryFormat

variable (format : BinaryFormat)

/-! ## Codes and their values -/

theorem units_mul_add (exponent : ℕ) {fraction : ℕ} (h : fraction < 2 ^ format.fractionBits) :
    format.units (exponent * 2 ^ format.fractionBits + fraction)
      = if exponent = 0 then fraction
        else (2 ^ format.fractionBits + fraction) * 2 ^ (exponent - 1) := by
  have hpos : 0 < 2 ^ format.fractionBits := Nat.two_pow_pos _
  have hdiv : (exponent * 2 ^ format.fractionBits + fraction) / 2 ^ format.fractionBits
      = exponent := by
    rw [Nat.mul_comm, Nat.mul_add_div hpos, Nat.div_eq_of_lt h, Nat.add_zero]
  have hmod : (exponent * 2 ^ format.fractionBits + fraction) % 2 ^ format.fractionBits
      = fraction := by
    rw [Nat.mul_comm, Nat.mul_add_mod, Nat.mod_eq_of_lt h]
  simp only [units, Nat.pow_eq, hdiv, hmod]

/-- A code is an exponent and a fraction. -/
theorem exists_code_eq (code : ℕ) :
    ∃ exponent fraction, fraction < 2 ^ format.fractionBits ∧
      code = exponent * 2 ^ format.fractionBits + fraction :=
  ⟨code / 2 ^ format.fractionBits, code % 2 ^ format.fractionBits,
    Nat.mod_lt _ (Nat.two_pow_pos _), (Nat.div_add_mod' ..).symm⟩

theorem units_zero : format.units 0 = 0 := by
  have h := format.units_mul_add 0 (Nat.two_pow_pos format.fractionBits)
  rwa [Nat.zero_mul, if_pos rfl] at h

/-- The value that follows is one step further, and steps grow with the exponent. -/
theorem units_succ (code : ℕ) :
    format.units (code + 1) = format.units code + 2 ^ (code / 2 ^ format.fractionBits - 1) := by
  obtain ⟨exponent, fraction, hlt, rfl⟩ := format.exists_code_eq code
  have hexponent : (exponent * 2 ^ format.fractionBits + fraction) / 2 ^ format.fractionBits
      = exponent := by
    rw [Nat.mul_comm, Nat.mul_add_div (Nat.two_pow_pos _), Nat.div_eq_of_lt hlt, Nat.add_zero]
  rw [hexponent, format.units_mul_add exponent hlt]
  rcases Nat.lt_or_ge (fraction + 1) (2 ^ format.fractionBits) with hin | hout
  · rw [Nat.add_assoc, format.units_mul_add exponent hin]
    split
    · next hzero => rw [hzero, Nat.zero_sub, Nat.pow_zero]
    · rw [← Nat.add_assoc, Nat.add_mul, Nat.one_mul]
  · -- The fraction is full, so the next code is the first of the next exponent.
    have hfull : fraction + 1 = 2 ^ format.fractionBits := by omega
    have hnext : exponent * 2 ^ format.fractionBits + fraction + 1
        = (exponent + 1) * 2 ^ format.fractionBits + 0 := by
      rw [Nat.add_assoc, hfull, Nat.add_mul, Nat.one_mul, Nat.add_zero]
    rw [hnext, format.units_mul_add (exponent + 1) (Nat.two_pow_pos _),
      if_neg (Nat.succ_ne_zero exponent), Nat.add_sub_cancel, Nat.add_zero]
    split
    · next hzero => rw [hzero, Nat.zero_sub, Nat.pow_zero, Nat.mul_one, hfull]
    · next hpos =>
      obtain ⟨power, rfl⟩ := Nat.exists_eq_add_one_of_ne_zero hpos
      rw [Nat.add_sub_cancel, ← Nat.succ_mul, Nat.succ_eq_add_one, Nat.add_assoc, hfull,
        Nat.pow_succ]
      ring

/-- **Codes are in the order of the values.** -/
theorem units_strictMono : StrictMono format.units := by
  refine strictMono_nat_of_lt_succ fun code => ?_
  rw [format.units_succ]
  exact Nat.lt_add_of_pos_right (Nat.two_pow_pos _)

/-- So many steps of a size behind the code with the exponent of that size. -/
theorem units_binade_add {binade steps : ℕ} (hsteps : steps ≤ 2 ^ (format.fractionBits + 1))
    (hbinade : binade = 0 ∨ 2 ^ format.fractionBits ≤ steps) :
    format.units (binade * 2 ^ format.fractionBits + steps) = steps * 2 ^ binade := by
  have hdouble : 2 ^ (format.fractionBits + 1) = 2 * 2 ^ format.fractionBits := by
    rw [Nat.pow_succ, Nat.mul_comm]
  rcases Nat.lt_or_ge steps (2 ^ format.fractionBits) with hbelow | hwithin
  · obtain rfl : binade = 0 := hbinade.resolve_right (Nat.not_le.mpr hbelow)
    rw [format.units_mul_add 0 hbelow, if_pos rfl, Nat.pow_zero, Nat.mul_one]
  · obtain ⟨fraction, rfl⟩ := Nat.exists_eq_add_of_le hwithin
    rcases Nat.lt_or_ge fraction (2 ^ format.fractionBits) with hin | hout
    · have hcode : binade * 2 ^ format.fractionBits + (2 ^ format.fractionBits + fraction)
          = (binade + 1) * 2 ^ format.fractionBits + fraction := by ring
      rw [hcode, format.units_mul_add (binade + 1) hin, if_neg (Nat.succ_ne_zero binade),
        Nat.add_sub_cancel]
    · obtain rfl : fraction = 2 ^ format.fractionBits := by omega
      have hcode : binade * 2 ^ format.fractionBits
          + (2 ^ format.fractionBits + 2 ^ format.fractionBits)
          = (binade + 2) * 2 ^ format.fractionBits + 0 := by ring
      rw [hcode, format.units_mul_add (binade + 2) (Nat.two_pow_pos _),
        if_neg (Nat.succ_ne_zero _), Nat.add_zero, Nat.add_succ_sub_one, Nat.pow_succ]
      ring

/-- **Large values are whole numbers of large steps.** -/
theorem two_pow_dvd_units {code binade : ℕ}
    (h : 2 ^ (format.fractionBits + binade) ≤ format.units code) :
    2 ^ binade ∣ format.units code := by
  obtain ⟨exponent, fraction, hlt, rfl⟩ := format.exists_code_eq code
  rw [format.units_mul_add exponent hlt] at h ⊢
  split at h
  · next hzero =>
    have hmono : 2 ^ format.fractionBits ≤ 2 ^ (format.fractionBits + binade) :=
      Nat.pow_le_pow_right (by decide) (Nat.le_add_right ..)
    omega
  · next hpos =>
    have hsmall : (2 ^ format.fractionBits + fraction) * 2 ^ (exponent - 1)
        < 2 ^ (format.fractionBits + 1 + (exponent - 1)) := by
      rw [Nat.pow_add, Nat.pow_succ]
      exact Nat.mul_lt_mul_of_pos_right (by omega) (Nat.two_pow_pos _)
    have hexponent := (Nat.pow_lt_pow_iff_right (by decide)).mp (Nat.lt_of_le_of_lt h hsmall)
    rw [if_neg hpos]
    exact Dvd.dvd.mul_left (Nat.pow_dvd_pow 2 (by omega)) _

/-! ## The fields of a code -/

/-- The whole significand of a code: its fraction behind a leading bit, which is missing at the least
exponent. -/
def significand (code : ℕ) : ℕ :=
  if code / 2 ^ format.fractionBits = 0 then code % 2 ^ format.fractionBits
  else 2 ^ format.fractionBits + code % 2 ^ format.fractionBits

/-- The power of two that the significand of a code is multiplied by: the exponent without its bias,
and as many places less as the fraction has. -/
def power (code : ℕ) : ℤ :=
  (max (code / 2 ^ format.fractionBits) 1 : ℕ) - (2 ^ (format.exponentBits - 1) - 1)
    - format.fractionBits

theorem units_eq_significand (code : ℕ) :
    format.units code
      = format.significand code * 2 ^ (max (code / 2 ^ format.fractionBits) 1 - 1) := by
  simp only [units, significand, Nat.pow_eq]
  split
  · next hzero => rw [hzero, Nat.zero_max, Nat.sub_self, Nat.pow_zero, Nat.mul_one]
  · next hpos => rw [Nat.max_eq_left (Nat.one_le_iff_ne_zero.mpr hpos)]

/-! ## Rounding -/

/-- The code of the value nearest to `q`, if there were no end to exponents. -/
def roundUnbounded (q : ℚ) : ℕ :=
  let scaled := q * (format.scale : ℚ)
  let binade := scaled.floor.toNat.log2 - format.fractionBits
  binade * 2 ^ format.fractionBits + nearestQuot scaled.num.toNat (scaled.den * 2 ^ binade)

theorem round_eq (q : ℚ) :
    format.round q = min (format.roundUnbounded q) format.infinity := rfl

variable {format}

section Binade

variable {v : ℚ} (hv : 0 ≤ v) (bits : ℕ)

include hv

theorem cast_toNat_floor : ((v.floor.toNat : ℕ) : ℚ) = v.floor := by
  have hfloor : 0 ≤ v.floor := Rat.le_floor_iff.mpr hv
  exact_mod_cast Int.toNat_of_nonneg hfloor

/-- The steps that a value is rounded to are small enough for its leading bits to be kept. -/
theorem lt_two_pow_binade : v < 2 ^ (bits + 1 + (v.floor.toNat.log2 - bits)) := by
  have hfloor : v < v.floor.toNat + 1 := by
    rw [cast_toNat_floor hv]
    exact_mod_cast Rat.lt_floor_add_one v
  have hlog : v.floor.toNat + 1 ≤ 2 ^ (v.floor.toNat.log2 + 1) := Nat.lt_log2_self
  have hmono : 2 ^ (v.floor.toNat.log2 + 1) ≤ 2 ^ (bits + 1 + (v.floor.toNat.log2 - bits)) :=
    Nat.pow_le_pow_right (by decide) (by omega)
  have hcast : ((v.floor.toNat + 1 : ℕ) : ℚ)
      ≤ ((2 ^ (bits + 1 + (v.floor.toNat.log2 - bits)) : ℕ) : ℚ) :=
    Nat.cast_le.mpr (hlog.trans hmono)
  push_cast at hcast
  exact hfloor.trans_le hcast

/-- They are no smaller than that. -/
theorem two_pow_binade_le (h : v.floor.toNat.log2 - bits ≠ 0) :
    2 ^ (bits + (v.floor.toNat.log2 - bits)) ≤ v := by
  have hne : v.floor.toNat ≠ 0 := by
    intro hzero
    rw [hzero] at h
    exact h (Nat.zero_sub bits)
  have hlog : 2 ^ (bits + (v.floor.toNat.log2 - bits)) ≤ v.floor.toNat := by
    rw [Nat.add_sub_cancel' (by omega)]
    exact Nat.log2_self_le hne
  have hcast : ((2 ^ (bits + (v.floor.toNat.log2 - bits)) : ℕ) : ℚ) ≤ v.floor.toNat :=
    Nat.cast_le.mpr hlog
  rw [cast_toNat_floor hv] at hcast
  push_cast at hcast
  exact hcast.trans (Rat.floor_le v)

omit hv in
/-- So the number of steps fills a binade: it has all leading bits, and no more. -/
theorem steps_mem_binade {binade steps : ℕ} (hround : RoundsTo (v / (2 ^ binade : ℕ)) steps)
    (hlt : v < 2 ^ (bits + 1 + binade)) (hle : binade ≠ 0 → 2 ^ (bits + binade) ≤ v) :
    steps ≤ 2 ^ (bits + 1) ∧ (binade = 0 ∨ 2 ^ bits ≤ steps) := by
  have hpos : (0 : ℚ) < ((2 ^ binade : ℕ) : ℚ) := Nat.cast_pos.mpr (Nat.two_pow_pos binade)
  constructor
  · refine hround.le_of_ge ?_
    rw [div_le_iff₀ hpos]
    push_cast
    rw [← pow_add]
    exact hlt.le
  · rcases Nat.eq_zero_or_pos binade with hzero | hbig
    · exact .inl hzero
    · refine .inr (hround.le_of_le ?_)
      rw [le_div_iff₀ hpos]
      push_cast
      rw [← pow_add]
      exact hle hbig.ne'

end Binade

/-- **Without an end to exponents, rounding finds the nearest value.** -/
theorem units_roundUnbounded_nearest (format : BinaryFormat) {q : ℚ} (hq : 0 ≤ q) (code : ℕ) :
    |(format.units (format.roundUnbounded q) : ℚ) - q * format.scale|
      ≤ |(format.units code : ℚ) - q * format.scale| := by
  have hv : 0 ≤ q * (format.scale : ℚ) := mul_nonneg hq (Nat.cast_nonneg _)
  rw [roundUnbounded]
  generalize q * (format.scale : ℚ) = v at hv ⊢
  have hlt := lt_two_pow_binade hv format.fractionBits
  have hle := two_pow_binade_le hv format.fractionBits
  generalize v.floor.toNat.log2 - format.fractionBits = binade at hlt hle ⊢
  have hround := roundsTo_steps hv (Nat.two_pow_pos binade)
  generalize nearestQuot v.num.toNat (v.den * 2 ^ binade) = steps at hround ⊢
  obtain ⟨hsteps, hbinade⟩ := steps_mem_binade format.fractionBits hround hlt hle
  rw [format.units_binade_add hsteps hbinade]
  have hwhole {value : ℕ} (hdvd : 2 ^ binade ∣ value) :=
    hround.nearest_of_dvd (Nat.two_pow_pos binade) hdvd
  rcases le_or_gt (2 ^ (format.fractionBits + binade)) (format.units code) with hlarge | hsmall
  · exact hwhole (format.two_pow_dvd_units hlarge)
  · -- The others lie below the least whole number of full steps, which lies below `v`.
    rcases Nat.eq_zero_or_pos binade with rfl | hbig
    · exact hwhole ⟨_, (Nat.one_mul _).symm⟩
    · have hleast := hwhole (Nat.pow_dvd_pow 2 (Nat.le_add_left binade format.fractionBits))
      have hbelow : ((2 ^ (format.fractionBits + binade) : ℕ) : ℚ) ≤ v := by
        push_cast
        exact hle hbig.ne'
      have hcode : (format.units code : ℚ) ≤ ((2 ^ (format.fractionBits + binade) : ℕ) : ℚ) :=
        Nat.cast_le.mpr hsmall.le
      rw [abs_of_nonpos (sub_nonpos.mpr hbelow)] at hleast
      rw [abs_of_nonpos (sub_nonpos.mpr (hcode.trans hbelow))]
      linarith

/-! ## Wide formats -/

/-- Whether the exponents of a format reach further than its fractions: the step at the greatest
finite value is larger than one, and the least positive value much smaller. -/
def IsWide (format : BinaryFormat) : Prop :=
  format.fractionBits + 1 < 2 ^ (format.exponentBits - 1)

instance : Decidable format.IsWide := Nat.decLt _ _

theorem isWide_single : single.IsWide := by decide

theorem isWide_double : double.IsWide := by decide

theorem scale_eq (format : BinaryFormat) :
    format.scale = 2 ^ (2 ^ (format.exponentBits - 1) - 2 + format.fractionBits) := rfl

theorem scale_pos (format : BinaryFormat) : (0 : ℚ) < format.scale := by
  rw [scale_eq]
  exact Nat.cast_pos.mpr (Nat.two_pow_pos _)

theorem magnitude_eq (format : BinaryFormat) (code : ℕ) :
    format.magnitude code = format.units code / format.scale := by
  rw [magnitude, Rat.mkRat_eq_div]
  rfl

theorem magnitude_zero (format : BinaryFormat) : format.magnitude 0 = 0 := by
  rw [magnitude_eq, units_zero, Nat.cast_zero, zero_div]

theorem magnitude_nonneg (format : BinaryFormat) (code : ℕ) : 0 ≤ format.magnitude code := by
  rw [magnitude_eq]
  exact div_nonneg (Nat.cast_nonneg _) format.scale_pos.le

/-- A number below half the least positive value is rounded to zero. -/
theorem round_eq_zero {q : ℚ} (hq : 0 ≤ q) (hsmall : q * format.scale < 1 / 2) :
    format.round q = 0 := by
  have hnearest := format.units_roundUnbounded_nearest hq 0
  rw [format.units_zero, Nat.cast_zero, zero_sub, abs_neg,
    abs_of_nonneg (mul_nonneg hq format.scale_pos.le)] at hnearest
  have hunits : (format.units (format.roundUnbounded q) : ℚ) < 1 := by
    linarith [(abs_le.mp hnearest).2]
  have hzero : format.units (format.roundUnbounded q) = format.units 0 := by
    rw [format.units_zero]
    exact Nat.lt_one_iff.mp (by exact_mod_cast hunits)
  rw [round_eq, format.units_strictMono.injective hzero, Nat.zero_min]

theorem round_zero (format : BinaryFormat) : format.round 0 = 0 :=
  round_eq_zero le_rfl (by norm_num)

namespace IsWide

variable (h : format.IsWide)

include h

theorem two_pow_exponentBits :
    2 ^ format.exponentBits = 2 * 2 ^ (format.exponentBits - 1) := by
  have hpos : format.exponentBits ≠ 0 := by
    intro hzero
    rw [IsWide, hzero] at h
    exact absurd h (by simp)
  obtain ⟨bits, hbits⟩ := Nat.exists_eq_add_one_of_ne_zero hpos
  rw [hbits, Nat.add_sub_cancel, Nat.pow_succ, Nat.mul_comm]

/-- **A magnitude is the significand times the power of two.** -/
theorem magnitude_eq_significand (code : ℕ) :
    format.magnitude code = format.significand code * 2 ^ format.power code := by
  have hwide : format.fractionBits + 1 < 2 ^ (format.exponentBits - 1) := h
  have hpower : format.power code = ((max (code / 2 ^ format.fractionBits) 1 - 1 : ℕ) : ℤ)
      - ((2 ^ (format.exponentBits - 1) - 2 + format.fractionBits : ℕ) : ℤ) := by
    have hbias : (2 : ℤ) ^ (format.exponentBits - 1)
        = ((2 ^ (format.exponentBits - 1) : ℕ) : ℤ) := by
      push_cast
      rfl
    rw [power, hbias]
    omega
  rw [magnitude_eq, units_eq_significand, scale_eq, hpower, zpow_sub₀ two_ne_zero, zpow_natCast,
    zpow_natCast, mul_div_assoc', Nat.cast_mul]
  push_cast
  rfl

/-- The greatest finite code has the greatest exponent and a full fraction. -/
theorem infinity_eq :
    format.infinity = (2 ^ format.exponentBits - 2) * 2 ^ format.fractionBits
      + (2 ^ format.fractionBits - 1) + 1 := by
  have hbits := h.two_pow_exponentBits
  have hwide : format.fractionBits + 1 < 2 ^ (format.exponentBits - 1) := h
  have hpos : 0 < 2 ^ format.fractionBits := Nat.two_pow_pos _
  obtain ⟨exponent, hexponent⟩ := Nat.exists_eq_add_of_le (Nat.le_of_lt_succ (by omega) :
    2 ≤ 2 ^ format.exponentBits)
  rw [infinity, magnitudeBits, Nat.pow_eq, Nat.pow_eq, Nat.pow_add, hexponent,
    Nat.add_sub_cancel_left, Nat.add_mul]
  omega

/-- **The greatest finite value is more than one below the next.** -/
theorem units_add_scale_lt {code : ℕ} (hcode : code < format.infinity) :
    format.units code + format.scale < format.units format.infinity := by
  have hbits := h.two_pow_exponentBits
  have hwide : format.fractionBits + 1 < 2 ^ (format.exponentBits - 1) := h
  have hinfinity := h.infinity_eq
  generalize hlast : (2 ^ format.exponentBits - 2) * 2 ^ format.fractionBits
    + (2 ^ format.fractionBits - 1) = last at hinfinity
  have hexponent : last / 2 ^ format.fractionBits = 2 ^ format.exponentBits - 2 := by
    have hpos : 0 < 2 ^ format.fractionBits := Nat.two_pow_pos _
    rw [← hlast, Nat.mul_comm, Nat.mul_add_div hpos, Nat.div_eq_of_lt (by omega), Nat.add_zero]
  have hstep : format.scale < 2 ^ (2 ^ format.exponentBits - 2 - 1) := by
    rw [scale_eq]
    exact Nat.pow_lt_pow_right (by decide) (by omega)
  have hmono : format.units code ≤ format.units last :=
    format.units_strictMono.monotone (by omega)
  rw [hinfinity, format.units_succ, hexponent]
  omega

/-- **A number at most a half from a finite value is rounded to a finite value**, and to none that is
further away. -/
theorem round_near {q : ℚ} (hq : 0 ≤ q) {code : ℕ} (hcode : code < format.infinity)
    (hnear : |format.magnitude code - q| ≤ 1 / 2) :
    format.round q < format.infinity ∧
      |format.magnitude (format.round q) - q| ≤ |format.magnitude code - q| := by
  have hscale := format.scale_pos
  have hdist (c : ℕ) : |(format.units c : ℚ) - q * format.scale|
      = |format.magnitude c - q| * format.scale := by
    rw [abs_sub_comm, abs_mul_sub hscale, ← magnitude_eq, abs_sub_comm]
  have hnearest := format.units_roundUnbounded_nearest hq code
  rw [hdist, hdist] at hnearest
  have hle := le_of_mul_le_mul_right hnearest hscale
  have hfinite : format.roundUnbounded q < format.infinity := by
    by_contra hlarge
    have hgap := h.units_add_scale_lt hcode
    have hmono := format.units_strictMono.monotone (Nat.not_lt.mp hlarge)
    have hfar : format.magnitude code + 1 < format.magnitude (format.roundUnbounded q) := by
      rw [magnitude_eq, magnitude_eq, div_add_one hscale.ne', div_lt_div_iff_of_pos_right hscale]
      exact_mod_cast hgap.trans_le hmono
    have habove := (abs_le.mp (hle.trans hnear)).2
    have hbelow := (abs_le.mp hnear).1
    linarith
  rw [round_eq, Nat.min_eq_left hfinite.le]
  exact ⟨hfinite, hle⟩

end IsWide

end BinaryFormat

/-! ## Patterns -/

namespace Binary

variable {format : BinaryFormat}

/-- **The number that a finite pattern stands for**: a sign, a whole significand, and a power of
two. -/
def value (x : Binary format) : ℚ :=
  (if x.signBit then -1 else 1) * format.significand x.code * 2 ^ format.power x.code

theorem value_eq (h : format.IsWide) (x : Binary format) :
    x.value = Datum.signed x.signBit (format.magnitude x.code) := by
  rw [value, mul_assoc, ← h.magnitude_eq_significand, Datum.signed]
  split
  · rw [neg_one_mul]
  · rw [one_mul]

theorem abs_value (h : format.IsWide) (x : Binary format) :
    |x.value| = format.magnitude x.code := by
  have hnonneg := format.magnitude_nonneg x.code
  rw [x.value_eq h, Datum.signed]
  split
  · rw [abs_neg, abs_of_nonneg hnonneg]
  · rw [abs_of_nonneg hnonneg]

theorem isBelowZero_iff_signBit {x : Binary format} (hx : x.code < format.infinity) :
    x.isBelowZero ↔ x.signBit ∧ format.magnitude x.code ≠ 0 := by
  have hdatum : x.datum = .finite x.signBit (format.magnitude x.code) := if_pos hx
  rw [isBelowZero, hdatum, Bool.and_eq_true, decide_eq_true_eq]

/-- A finite pattern is below zero if its value is. -/
theorem isBelowZero_iff (h : format.IsWide) {x : Binary format} (hx : x.code < format.infinity) :
    x.isBelowZero ↔ x.value < 0 := by
  have hnonneg := format.magnitude_nonneg x.code
  rw [isBelowZero_iff_signBit hx, x.value_eq h, Datum.signed]
  cases x.signBit with
  | true => rw [if_pos rfl, Left.neg_neg_iff, hnonneg.lt_iff_ne', and_iff_right rfl]
  | false => exact iff_of_false (fun hsign => Bool.false_ne_true hsign.1) (not_lt.mpr hnonneg)

theorem toNat_ofCode (negative : Bool) {code : ℕ} (h : code < 2 ^ format.magnitudeBits) :
    (ofCode negative code : Binary format).bits.toNat
      = (if negative then 2 ^ format.magnitudeBits else 0) + code := by
  have hlt : (if negative then 2 ^ format.magnitudeBits else 0) + code < 2 ^ format.width := by
    rw [BinaryFormat.width, Nat.pow_succ]
    split <;> omega
  rw [ofCode, BitVec.toNat_ofNat, Nat.pow_eq, Nat.mod_eq_of_lt hlt]

theorem code_ofCode (negative : Bool) {code : ℕ} (h : code < 2 ^ format.magnitudeBits) :
    (ofCode negative code : Binary format).code = code := by
  rw [Binary.code, toNat_ofCode negative h, Nat.pow_eq]
  split
  · rw [Nat.add_mod_left, Nat.mod_eq_of_lt h]
  · rw [Nat.zero_add, Nat.mod_eq_of_lt h]

theorem signBit_ofCode (negative : Bool) {code : ℕ} (h : code < 2 ^ format.magnitudeBits) :
    (ofCode negative code : Binary format).signBit = negative := by
  rw [signBit, toNat_ofCode negative h, Nat.pow_eq]
  cases negative with
  | true => exact decide_eq_true (Nat.le_add_right ..)
  | false => exact decide_eq_false (by rw [if_neg Bool.false_ne_true]; omega)

theorem infinity_lt (format : BinaryFormat) : format.infinity < 2 ^ format.magnitudeBits :=
  Nat.sub_lt (Nat.two_pow_pos _) (Nat.two_pow_pos _)

end Binary

end VehicleLink
