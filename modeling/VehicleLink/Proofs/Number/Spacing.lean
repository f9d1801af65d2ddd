import Mathlib.Data.Rat.Floor
import Mathlib.Tactic.Positivity
import VehicleLink.Proofs.Number.Binary

/-!
# Proofs/Number/Spacing — the values of a binary format, and the gaps between them

A value is a small whole number of steps, each a power of two (`exists_units_eq_iff`).  So small
multiples of a power of two are values (`IsWide.isMagnitude_div`), and so is the remainder of two
values (`IsMagnitude.sub_floor_mul`).

Rounding keeps the order and leaves values as they are (`round_mono`, `round_magnitude`).  A number
below a power of two is no further from what it is rounded to than half a step of this size
(`IsWide.round_error`).  A quotient is rounded to the same side of a whole number as it is on
(`IsWide.magnitude_round_div_lt_iff`): a value cannot be as close below a multiple of the divisor as
the quotient would have to be below the whole number (`units_le_mul_sub`).
-/

namespace VehicleLink

/-- Of two numbers, the greater is the nearer one from their middle on. -/
theorem abs_sub_le_abs_sub_iff {a b x : ℚ} (h : a < b) : |b - x| ≤ |a - x| ↔ a + b ≤ 2 * x := by
  have hpos : 0 < b - a := sub_pos.mpr h
  rw [← sq_le_sq, ← sub_nonneg]
  have hfactor : (a - x) ^ 2 - (b - x) ^ 2 = (b - a) * (2 * x - (a + b)) := by ring
  rw [hfactor, mul_nonneg_iff_of_pos_left hpos, sub_nonneg]

namespace BinaryFormat

variable {format : BinaryFormat}

/-! ## Steps -/

/-- **A small whole number of steps is a value.** -/
theorem exists_units_eq {steps : ℕ} (h : steps ≤ 2 ^ (format.fractionBits + 1)) (binade : ℕ) :
    ∃ code, format.units code = steps * 2 ^ binade := by
  induction binade generalizing steps with
  | zero => exact ⟨_, format.units_binade_add h (.inl rfl)⟩
  | succ binade ih =>
    rcases Nat.lt_or_ge steps (2 ^ format.fractionBits) with hbelow | hwithin
    · -- There is room for twice as many steps of half the size.
      have htwice : steps * 2 ≤ 2 ^ (format.fractionBits + 1) := by
        rw [Nat.pow_succ]
        omega
      obtain ⟨code, hcode⟩ := ih htwice
      exact ⟨code, by rw [hcode, Nat.pow_succ', Nat.mul_assoc]⟩
    · exact ⟨_, format.units_binade_add h (.inr hwithin)⟩

theorem significand_lt (format : BinaryFormat) (code : ℕ) :
    format.significand code < 2 ^ (format.fractionBits + 1) := by
  have hfraction := Nat.mod_lt code (Nat.two_pow_pos format.fractionBits)
  rw [significand, Nat.pow_succ]
  split <;> omega

/-- **Values are the small whole numbers of steps.** -/
theorem exists_units_eq_iff {n : ℕ} : (∃ code, format.units code = n)
    ↔ ∃ steps binade, steps ≤ 2 ^ (format.fractionBits + 1) ∧ n = steps * 2 ^ binade := by
  constructor
  · rintro ⟨code, rfl⟩
    exact ⟨_, _, (format.significand_lt code).le, format.units_eq_significand code⟩
  · rintro ⟨steps, binade, hsteps, rfl⟩
    exact exists_units_eq hsteps binade

/-- **The remainder of two values is a value**: it is a whole number of the smaller one's steps. -/
theorem exists_units_eq_mod (format : BinaryFormat) (a b : ℕ) :
    ∃ code, format.units code = format.units a % format.units b := by
  obtain ⟨s, i, hs, ha⟩ := exists_units_eq_iff.mp ⟨a, rfl⟩
  obtain ⟨t, j, ht, hb⟩ := exists_units_eq_iff.mp ⟨b, rfl⟩
  rw [ha, hb, exists_units_eq_iff]
  rcases Nat.le_total i j with hij | hji
  · obtain ⟨k, rfl⟩ := Nat.exists_eq_add_of_le' hij
    refine ⟨s % (t * 2 ^ k), i, (Nat.mod_le ..).trans hs, ?_⟩
    rw [Nat.pow_add, ← Nat.mul_assoc, Nat.mul_mod_mul_right]
  · obtain ⟨k, rfl⟩ := Nat.exists_eq_add_of_le' hji
    rcases Nat.eq_zero_or_pos t with rfl | htpos
    · rw [Nat.zero_mul, Nat.mod_zero]
      exact ⟨s, k + j, hs, rfl⟩
    · refine ⟨s * 2 ^ k % t, j, (Nat.mod_lt _ htpos).le.trans ht, ?_⟩
      rw [Nat.pow_add, ← Nat.mul_assoc, Nat.mul_mod_mul_right]

/-! ## Gaps -/

/-- The step behind a code, and how many of these the next value has at most. -/
theorem units_succ_le (format : BinaryFormat) (code : ℕ) : format.units (code + 1)
    ≤ 2 ^ (format.fractionBits + 1) * (format.units (code + 1) - format.units code) := by
  have hlt := format.significand_lt code
  have hpower : max (code / 2 ^ format.fractionBits) 1 - 1
      = code / 2 ^ format.fractionBits - 1 := by omega
  rw [format.units_succ, Nat.add_sub_cancel_left, format.units_eq_significand, hpower,
    ← Nat.succ_mul]
  exact Nat.mul_le_mul_right _ hlt

/-- **A value is not close to any that is smaller**: the gap is a small part of it. -/
theorem units_le_mul_sub (format : BinaryFormat) {lower upper : ℕ} (h : lower < upper) :
    format.units upper
    ≤ 2 ^ (format.fractionBits + 1) * (format.units upper - format.units lower) := by
  obtain ⟨before, rfl⟩ := Nat.exists_eq_add_one_of_ne_zero (Nat.ne_zero_of_lt h)
  have hmono : format.units lower ≤ format.units before :=
    format.units_strictMono.monotone (Nat.le_of_lt_succ h)
  exact (format.units_succ_le before).trans (Nat.mul_le_mul_left _ (Nat.sub_le_sub_left hmono _))

/-- **The value before a normal one is close to it.** -/
theorem mul_sub_units_lt (format : BinaryFormat) {code : ℕ} (h : 2 ^ format.fractionBits ≤ code) :
    2 ^ format.fractionBits * (format.units (code + 1) - format.units code)
      < format.units (code + 1) := by
  have hexponent : code / 2 ^ format.fractionBits ≠ 0 :=
    (Nat.div_pos h (Nat.two_pow_pos _)).ne'
  have hsignificand : 2 ^ format.fractionBits ≤ format.significand code := by
    rw [significand, if_neg hexponent]
    exact Nat.le_add_right ..
  have hpower : max (code / 2 ^ format.fractionBits) 1 - 1
      = code / 2 ^ format.fractionBits - 1 := by omega
  rw [format.units_succ, Nat.add_sub_cancel_left, format.units_eq_significand, hpower]
  have hle := Nat.mul_le_mul_right (2 ^ (code / 2 ^ format.fractionBits - 1)) hsignificand
  have hpos := Nat.two_pow_pos (code / 2 ^ format.fractionBits - 1)
  omega

/-! ## Order -/

theorem magnitude_strictMono (format : BinaryFormat) : StrictMono format.magnitude := by
  intro lower upper h
  rw [magnitude_eq, magnitude_eq, div_lt_div_iff_of_pos_right format.scale_pos]
  exact_mod_cast format.units_strictMono h

theorem magnitude_mul_scale (format : BinaryFormat) (code : ℕ) :
    format.magnitude code * format.scale = format.units code := by
  rw [magnitude_eq, div_mul_cancel₀ _ format.scale_pos.ne']

/-- **Without an end to exponents, rounding keeps the order.**  If it did not, both numbers would
have to be in the middle between the values they are rounded to. -/
theorem roundUnbounded_mono {q r : ℚ} (hq : 0 ≤ q) (h : q ≤ r) :
    format.roundUnbounded q ≤ format.roundUnbounded r := by
  by_contra hlt
  have hunits : (format.units (format.roundUnbounded r) : ℚ)
      < format.units (format.roundUnbounded q) :=
    Nat.cast_lt.mpr (format.units_strictMono (Nat.not_le.mp hlt))
  have hqnear := (abs_sub_le_abs_sub_iff hunits).mp
    (format.units_roundUnbounded_nearest hq (format.roundUnbounded r))
  have hrnear : 2 * (r * format.scale)
      ≤ format.units (format.roundUnbounded r) + format.units (format.roundUnbounded q) := by
    by_contra hfar
    have hstrict : |(format.units (format.roundUnbounded q) : ℚ) - r * format.scale|
        < |(format.units (format.roundUnbounded r) : ℚ) - r * format.scale| := by
      refine lt_of_le_of_ne ((abs_sub_le_abs_sub_iff hunits).mpr (not_le.mp hfar).le) fun heq => ?_
      rcases abs_eq_abs.mp heq with heq | heq <;> linarith
    exact absurd (format.units_roundUnbounded_nearest (hq.trans h) (format.roundUnbounded q))
      (not_le.mpr hstrict)
  have hscaled : q * format.scale = r * format.scale :=
    le_antisymm (mul_le_mul_of_nonneg_right h format.scale_pos.le) (by linarith)
  rw [mul_right_cancel₀ format.scale_pos.ne' hscaled] at hlt
  exact hlt le_rfl

/-- **Rounding keeps the order.** -/
theorem round_mono {q r : ℚ} (hq : 0 ≤ q) (h : q ≤ r) : format.round q ≤ format.round r := by
  rw [round_eq, round_eq]
  exact min_le_min_right _ (roundUnbounded_mono hq h)

/-- **A value is rounded to itself.** -/
theorem round_magnitude {code : ℕ} (h : code ≤ format.infinity) :
    format.round (format.magnitude code) = code := by
  have hnear := format.units_roundUnbounded_nearest (format.magnitude_nonneg code) code
  rw [magnitude_mul_scale, sub_self, abs_zero, abs_nonpos_iff, sub_eq_zero, Nat.cast_inj] at hnear
  rw [round_eq, format.units_strictMono.injective hnear, Nat.min_eq_left h]

/-- **No value is nearer**, if rounding does not run over. -/
theorem round_nearest {q : ℚ} (hq : 0 ≤ q) (hfinite : format.round q < format.infinity)
    (code : ℕ) :
    |format.magnitude (format.round q) - q| ≤ |format.magnitude code - q| := by
  have hunbounded : format.roundUnbounded q = format.round q := by
    rw [round_eq] at hfinite ⊢
    exact (min_eq_left ((min_lt_iff.mp hfinite).resolve_right (lt_irrefl _)).le).symm
  have hdist (c : ℕ) : |(format.units c : ℚ) - q * format.scale|
      = |format.magnitude c - q| * format.scale := by
    rw [abs_sub_comm, abs_mul_sub format.scale_pos, ← magnitude_eq, abs_sub_comm]
  have hnear := format.units_roundUnbounded_nearest hq code
  rw [hunbounded, hdist, hdist] at hnear
  exact le_of_mul_le_mul_right hnear format.scale_pos

/-! ## Values -/

/-- Whether a number is a finite value of the format. -/
def IsMagnitude (format : BinaryFormat) (q : ℚ) : Prop :=
  ∃ code < format.infinity, format.magnitude code = q

namespace IsMagnitude

variable {p q : ℚ}

theorem nonneg (h : format.IsMagnitude q) : 0 ≤ q := by
  obtain ⟨code, -, rfl⟩ := h
  exact format.magnitude_nonneg code

theorem round_lt (h : format.IsMagnitude q) : format.round q < format.infinity := by
  obtain ⟨code, hcode, rfl⟩ := h
  rwa [round_magnitude hcode.le]

theorem magnitude_round (h : format.IsMagnitude q) : format.magnitude (format.round q) = q := by
  obtain ⟨code, hcode, rfl⟩ := h
  rw [round_magnitude hcode.le]

/-- What is below a finite value is rounded to a finite value. -/
theorem round_lt_of_le (h : format.IsMagnitude q) (hp : 0 ≤ p) (hpq : p ≤ q) :
    format.round p < format.infinity :=
  (round_mono hp hpq).trans_lt h.round_lt

theorem magnitude_round_le (h : format.IsMagnitude q) (hp : 0 ≤ p) (hpq : p ≤ q) :
    format.magnitude (format.round p) ≤ q := by
  rw [← h.magnitude_round]
  exact format.magnitude_strictMono.monotone (round_mono hp hpq)

theorem le_magnitude_round (h : format.IsMagnitude q) (hqp : q ≤ p) :
    q ≤ format.magnitude (format.round p) := by
  rw [← h.magnitude_round]
  exact format.magnitude_strictMono.monotone (round_mono h.nonneg hqp)

/-- **What is left of a value when another is taken from it, as often as it can be, is a value.** -/
theorem sub_floor_mul (hp : format.IsMagnitude p) (hq : format.IsMagnitude q) (hpos : 0 < q) :
    format.IsMagnitude (p - q * ⌊p / q⌋) := by
  obtain ⟨a, ha, rfl⟩ := hp
  obtain ⟨b, -, rfl⟩ := hq
  obtain ⟨code, hcode⟩ := exists_units_eq_mod format a b
  have hle : code ≤ a := by
    refine format.units_strictMono.le_iff_le.mp ?_
    rw [hcode]
    exact Nat.mod_le ..
  refine ⟨code, hle.trans_lt ha, ?_⟩
  have hquotient : format.magnitude a / format.magnitude b
      = (format.units a : ℚ) / (format.units b : ℚ) := by
    rw [magnitude_eq, magnitude_eq, div_div_div_cancel_right₀ format.scale_pos.ne']
  have hsplit : ((format.units a % format.units b : ℕ) : ℚ)
      = format.units a - format.units b * (format.units a / format.units b : ℕ) := by
    rw [eq_sub_iff_add_eq]
    exact_mod_cast Nat.mod_add_div (format.units a) (format.units b)
  rw [hquotient, Rat.floor_natCast_div_natCast, magnitude_eq, hcode, hsplit, magnitude_eq,
    magnitude_eq, sub_div, mul_div_right_comm]
  norm_cast

end IsMagnitude

namespace IsWide

variable (h : format.IsWide)

include h

/-- **Small multiples of a power of two are values.** -/
theorem isMagnitude_div {n : ℕ} (hn : n ≤ 2 ^ (format.fractionBits + 1)) {power : ℕ}
    (hpower : power ≤ 2 ^ (format.exponentBits - 1) - 2 + format.fractionBits) :
    format.IsMagnitude (n / 2 ^ power) := by
  have hbits := h.two_pow_exponentBits
  have hwide : format.fractionBits + 1 < 2 ^ (format.exponentBits - 1) := h
  obtain ⟨rest, hrest⟩ := Nat.exists_eq_add_of_le hpower
  obtain ⟨code, hcode⟩ := exists_units_eq hn rest
  have hinfinity :
      format.infinity = (2 ^ format.exponentBits - 1) * 2 ^ format.fractionBits + 0 := by
    rw [infinity, magnitudeBits, Nat.pow_eq, Nat.pow_eq, Nat.pow_add, Nat.sub_mul, Nat.one_mul,
      Nat.add_zero]
  have hlt : format.units code < format.units format.infinity := by
    rw [hcode, hinfinity, format.units_mul_add _ (Nat.two_pow_pos _), if_neg (by omega),
      Nat.add_zero, ← Nat.pow_add]
    refine (Nat.mul_le_mul_right _ hn).trans_lt ?_
    rw [← Nat.pow_add]
    exact Nat.pow_lt_pow_right (by decide) (by omega)
  refine ⟨code, format.units_strictMono.lt_iff_lt.mp hlt, ?_⟩
  rw [magnitude_eq, hcode, scale_eq, hrest, div_eq_div_iff (by positivity) (by positivity)]
  push_cast
  ring

/-- So are small whole numbers. -/
theorem isMagnitude_natCast {n : ℕ} (hn : n ≤ 2 ^ (format.fractionBits + 1)) :
    format.IsMagnitude n := by
  have hvalue := h.isMagnitude_div hn (Nat.zero_le _)
  rwa [pow_zero, div_one] at hvalue

/-- **Below a power of two, rounding is off by half a step at most.** -/
theorem round_error {q : ℚ} (hq : 0 ≤ q) {power : ℕ}
    (hpower : power ≤ 2 ^ (format.exponentBits - 1) - 2 + format.fractionBits)
    (hle : q * 2 ^ power ≤ 2 ^ (format.fractionBits + 1)) :
    format.round q < format.infinity ∧
      |format.magnitude (format.round q) - q| ≤ 1 / 2 / 2 ^ power := by
  have hpos : (0 : ℚ) < 2 ^ power := by positivity
  have hsteps := roundsTo_nearest (q := q * 2 ^ power) (by positivity)
  have hle' : nearest (q * 2 ^ power) ≤ 2 ^ (format.fractionBits + 1) :=
    hsteps.le_of_ge (by exact_mod_cast hle)
  have hlargest := h.isMagnitude_div le_rfl hpower
  have hfinite : format.round q < format.infinity := by
    refine hlargest.round_lt_of_le hq ?_
    rw [le_div_iff₀ hpos]
    exact_mod_cast hle
  refine ⟨hfinite, ?_⟩
  obtain ⟨code, -, hcode⟩ := h.isMagnitude_div hle' hpower
  refine (round_nearest hq hfinite code).trans ?_
  rw [hcode, le_div_iff₀ hpos, ← abs_of_pos hpos, ← abs_mul, abs_of_pos hpos, sub_mul,
    div_mul_cancel₀ _ hpos.ne']
  exact hsteps.half

/-- The value before a whole number is close to it. -/
theorem exists_isMagnitude_lt (hfraction : 0 < format.fractionBits) {count : ℕ}
    (hpos : 0 < count) (hsmall : count ≤ 2 ^ (format.fractionBits + 1)) :
    ∃ before, format.IsMagnitude before ∧ before < count ∧
      2 ^ format.fractionBits * (count - before) < count := by
  have hwide : format.fractionBits + 1 < 2 ^ (format.exponentBits - 1) := h
  obtain ⟨code, hcode, hcount⟩ := h.isMagnitude_natCast hsmall
  have hunits : format.units code = count * format.scale := by
    have hscaled := format.magnitude_mul_scale code
    rw [hcount] at hscaled
    exact_mod_cast hscaled.symm
  have hnormal : 2 ^ format.fractionBits < code := by
    refine format.units_strictMono.lt_iff_lt.mp ?_
    have hleast := format.units_mul_add 1 (Nat.two_pow_pos format.fractionBits)
    rw [Nat.one_mul, Nat.add_zero, if_neg Nat.one_ne_zero, Nat.sub_self,
      Nat.pow_zero, Nat.mul_one] at hleast
    rw [hleast, hunits, scale_eq]
    exact (Nat.pow_lt_pow_right (by decide) (by omega)).trans_le (Nat.le_mul_of_pos_left _ hpos)
  obtain ⟨before, rfl⟩ := Nat.exists_eq_add_one_of_ne_zero (Nat.ne_zero_of_lt hnormal)
  have hlt := format.magnitude_strictMono (Nat.lt_add_one before)
  refine ⟨format.magnitude before, ⟨before, (Nat.lt_add_one before).trans hcode, rfl⟩,
    hcount ▸ hlt, ?_⟩
  have hclose := format.mul_sub_units_lt (Nat.le_of_lt_succ hnormal)
  have hmono := format.units_strictMono (Nat.lt_add_one before)
  rw [← hcount, magnitude_eq, magnitude_eq, ← sub_div, mul_div_assoc',
    div_lt_div_iff_of_pos_right format.scale_pos, ← Nat.cast_sub hmono.le]
  exact_mod_cast hclose

/-- A value is not close to a greater whole number. -/
theorem le_mul_sub_of_lt {value : ℚ} (hvalue : format.IsMagnitude value) {whole : ℕ}
    (hsmall : whole ≤ 2 ^ (format.fractionBits + 1)) (hlt : value < whole) :
    (whole : ℚ) ≤ 2 ^ (format.fractionBits + 1) * (whole - value) := by
  obtain ⟨lower, -, rfl⟩ := hvalue
  obtain ⟨upper, -, hupper⟩ := h.isMagnitude_natCast hsmall
  rw [← hupper] at hlt ⊢
  have hcodes := format.magnitude_strictMono.lt_iff_lt.mp hlt
  have hfar := format.units_le_mul_sub hcodes
  have hmono := format.units_strictMono hcodes
  rw [magnitude_eq, magnitude_eq, ← sub_div, mul_div_assoc',
    div_le_div_iff_of_pos_right format.scale_pos, ← Nat.cast_sub hmono.le]
  exact_mod_cast hfar

/-- **A quotient is rounded to the side of a whole number that it is on.** -/
theorem magnitude_round_div_lt_iff (hfraction : 0 < format.fractionBits) {value : ℚ}
    (hvalue : format.IsMagnitude value) {divisor count : ℕ} (hdivisor : 0 < divisor)
    (hsmall : count * divisor ≤ 2 ^ (format.fractionBits + 1)) :
    format.magnitude (format.round (value / divisor)) < count ↔ value / divisor < count := by
  have hdiv : (0 : ℚ) < divisor := Nat.cast_pos.mpr hdivisor
  have hsmall' := (Nat.le_mul_of_pos_right count hdivisor).trans hsmall
  have hcount := h.isMagnitude_natCast hsmall'
  have hnonneg : 0 ≤ value / divisor := div_nonneg hvalue.nonneg hdiv.le
  constructor
  · intro hlt
    by_contra hge
    exact absurd (hcount.le_magnitude_round (not_lt.mp hge)) (not_le.mpr hlt)
  · intro hlt
    by_contra hge
    have hrounded := le_antisymm (hcount.magnitude_round_le hnonneg hlt.le) (not_lt.mp hge)
    have hpos : 0 < count := Nat.cast_pos.mp (hnonneg.trans_lt hlt)
    obtain ⟨_, ⟨before, -, rfl⟩, hbefore, hclose⟩ :=
      h.exists_isMagnitude_lt hfraction hpos hsmall'
    -- The quotient is nearer to the whole number than to the value before it.
    have hnear := round_nearest hnonneg (hcount.round_lt_of_le hnonneg hlt.le) before
    rw [hrounded, abs_sub_le_abs_sub_iff hbefore] at hnear
    -- So the value is closer to the multiple of the divisor than a value can be.
    have hbelow : value < (count * divisor : ℕ) := by
      rw [Nat.cast_mul]
      exact (div_lt_iff₀ hdiv).mp hlt
    have hfar := h.le_mul_sub_of_lt hvalue hsmall hbelow
    have hquotient : (count : ℚ) ≤ 2 ^ (format.fractionBits + 1) * (count - value / divisor) := by
      rw [Nat.cast_mul, ← le_div_iff₀ hdiv] at hfar
      refine hfar.trans_eq ?_
      field_simp
    rw [pow_succ] at hquotient
    have hpow : (0 : ℚ) ≤ 2 ^ format.fractionBits := by positivity
    have hscaled := mul_le_mul_of_nonneg_left hnear hpow
    linarith

end IsWide

end BinaryFormat

end VehicleLink
