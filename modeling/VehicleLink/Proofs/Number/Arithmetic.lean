import VehicleLink.Proofs.Number.Spacing

/-!
# Proofs/Number/Arithmetic — what the operations on binary numbers compute

A finite pattern stands for a number (`Binary.StandsFor`).  The operations on patterns give the
pattern of the exact result, rounded once, as long as this is in the range of the format; here they
are stated for results that are not below zero.  The remainder is exact (`StandsFor.mod`), and so are
sums and products of small whole numbers.  Elsewhere the result is close to the exact one, and on the
same side of each whole number (`exists_isRounded`).  A zero may have a sign, and stands for zero
nonetheless.
-/

namespace VehicleLink

/-- What is left of `p` when `q` is taken from it as often as it can be. -/
def remainder (p q : ℚ) : ℚ := p - q * ⌊p / q⌋

theorem remainder_nonneg {p q : ℚ} (hq : 0 < q) : 0 ≤ remainder p q := by
  have hle := Int.floor_le (p / q)
  rw [le_div_iff₀ hq] at hle
  rw [remainder]
  linarith

theorem remainder_lt {p q : ℚ} (hq : 0 < q) : remainder p q < q := by
  have hlt := Int.lt_floor_add_one (p / q)
  rw [div_lt_iff₀ hq] at hlt
  rw [remainder]
  linarith

/-- The remainder is what is between two multiples. -/
theorem remainder_eq {p q : ℚ} (hq : 0 < q) (count : ℤ) (hle : q * count ≤ p)
    (hlt : p < q * count + q) : remainder p q = p - q * count := by
  have hfloor : ⌊p / q⌋ = count := by
    rw [Int.floor_eq_iff, le_div_iff₀ hq, div_lt_iff₀ hq]
    constructor <;> linarith
  rw [remainder, hfloor]

namespace Binary

variable {format : BinaryFormat}

/-- **Whether a pattern is finite and stands for a number.** -/
structure StandsFor (x : Binary format) (q : ℚ) : Prop where
  finite : x.code < format.infinity
  value : x.value = q

/-- What a sign and a size are rounded to.  Only a zero may have a minus sign. -/
theorem standsFor_ofDatum (h : format.IsWide) {negative : Bool} {q : ℚ}
    (hsign : negative → q = 0) (hfinite : format.round q < format.infinity) :
    (ofDatum (.finite negative q) : Binary format).StandsFor
      (format.magnitude (format.round q)) := by
  have hlt := hfinite.trans (infinity_lt format)
  have hcode : (ofDatum (.finite negative q) : Binary format).code = format.round q :=
    code_ofCode negative hlt
  have hbit : (ofDatum (.finite negative q) : Binary format).signBit = negative :=
    signBit_ofCode negative hlt
  refine ⟨hcode ▸ hfinite, ?_⟩
  rw [value_eq h, hcode, hbit, Datum.signed]
  split
  · next hnegative => rw [hsign hnegative, format.round_zero, format.magnitude_zero, neg_zero]
  · rfl

theorem standsFor_ofRat (h : format.IsWide) {q : ℚ} (hq : 0 ≤ q)
    (hfinite : format.round q < format.infinity) :
    (ofRat q : Binary format).StandsFor (format.magnitude (format.round q)) := by
  rw [ofRat, Datum.ofRat, if_neg (not_lt.mpr hq)]
  exact standsFor_ofDatum h (fun hfalse => absurd hfalse Bool.false_ne_true) hfinite

/-- **A value of the format is kept.** -/
theorem standsFor_ofRat_of_isMagnitude (h : format.IsWide) {q : ℚ} (hq : format.IsMagnitude q) :
    (ofRat q : Binary format).StandsFor q := by
  have hround := standsFor_ofRat h hq.nonneg hq.round_lt
  rwa [hq.magnitude_round] at hround

/-- **A small whole number is kept.** -/
theorem standsFor_ofInt (h : format.IsWide) {n : ℕ} (hn : n ≤ 2 ^ (format.fractionBits + 1)) :
    (ofInt n : Binary format).StandsFor n :=
  standsFor_ofRat_of_isMagnitude h (by exact_mod_cast h.isMagnitude_natCast hn)

/-! ## Patterns that stand for no number -/

theorem datum_ofDatum_infinite (negative : Bool) :
    (ofDatum (.infinite negative) : Binary format).datum = .infinite negative := by
  have hlt := infinity_lt format
  have hcode : (ofDatum (.infinite negative) : Binary format).code = format.infinity :=
    code_ofCode negative hlt
  have hbit : (ofDatum (.infinite negative) : Binary format).signBit = negative :=
    signBit_ofCode negative hlt
  rw [datum, hcode, hbit, if_neg (lt_irrefl _), if_pos rfl]

theorem datum_ofDatum_nan (hfraction : 0 < format.fractionBits) :
    (ofDatum .nan : Binary format).datum = .nan := by
  have hquiet : 2 ^ (format.fractionBits - 1) < 2 ^ format.fractionBits :=
    Nat.pow_lt_pow_right (by decide) (Nat.sub_lt hfraction Nat.one_pos)
  have hfits : 2 ^ format.fractionBits ≤ 2 ^ format.magnitudeBits :=
    Nat.pow_le_pow_right (by decide) (Nat.le_add_left ..)
  have hpos := Nat.two_pow_pos (format.fractionBits - 1)
  have hcode : (ofDatum .nan : Binary format).code = format.quietNaN := by
    refine code_ofCode false ?_
    rw [BinaryFormat.quietNaN, BinaryFormat.infinity, Nat.pow_eq, Nat.pow_eq, Nat.pow_eq]
    omega
  rw [datum, hcode, BinaryFormat.quietNaN, Nat.pow_eq, if_neg (by omega), if_neg (by omega)]

theorem datum_eq_nan_iff {x : Binary format} : x.datum = .nan ↔ x.isNaN := by
  rw [datum, isNaN, decide_eq_true_eq]
  split
  · next hfinite => exact iff_of_false (by rintro ⟨⟩) (by omega)
  · next hlarge =>
    split
    · next hinfinite => exact iff_of_false (by rintro ⟨⟩) (by omega)
    · next hother => exact iff_of_true rfl (by omega)

section NotANumber

variable {x : Binary format} (h : x.datum = .nan) (y : Binary format)

include h

theorem add_of_nan : x + y = ofDatum .nan := by
  change ofDatum (x.datum.add y.datum) = _
  rw [h, Datum.add]

theorem sub_of_nan : x - y = ofDatum .nan := by
  change ofDatum (x.datum.add y.datum.neg) = _
  rw [h, Datum.add]

theorem mul_of_nan : x * y = ofDatum .nan := by
  change ofDatum (x.datum.mul y.datum) = _
  rw [h, Datum.mul]

theorem div_of_nan : x / y = ofDatum .nan := by
  change ofDatum (x.datum.div y.datum) = _
  rw [h, Datum.div]

theorem mod_of_nan : x % y = ofDatum .nan := by
  change ofDatum (x.datum.rem y.datum) = _
  rw [h, Datum.rem]

end NotANumber

/-! ## Patterns that stand for a number -/

namespace StandsFor

variable {x y : Binary format} {p q : ℚ}

theorem exists_datum (h : format.IsWide) (hx : x.StandsFor q) :
    ∃ negative, x.datum = .finite negative |q| ∧ Datum.signed negative |q| = q := by
  refine ⟨x.signBit, ?_, ?_⟩
  · rw [← hx.value, abs_value h]
    exact if_pos hx.finite
  · rw [← hx.value, abs_value h, value_eq h]

/-- What is not below zero is a size, and has a minus sign only if it is zero. -/
theorem exists_datum_of_nonneg (h : format.IsWide) (hx : x.StandsFor q) (hq : 0 ≤ q) :
    ∃ negative, x.datum = .finite negative q ∧ (negative → q = 0) := by
  obtain ⟨negative, hdatum, hsigned⟩ := hx.exists_datum h
  rw [abs_of_nonneg hq] at hdatum hsigned
  refine ⟨negative, hdatum, ?_⟩
  rintro rfl
  have hneg : -q = q := hsigned
  linarith

theorem datum_of_pos (h : format.IsWide) (hx : x.StandsFor q) (hq : 0 < q) :
    x.datum = .finite false q := by
  obtain ⟨negative, hdatum, hsign⟩ := hx.exists_datum_of_nonneg h hq.le
  cases negative with
  | true => exact absurd (hsign rfl) hq.ne'
  | false => exact hdatum

theorem isMagnitude (h : format.IsWide) (hx : x.StandsFor q) (hq : 0 ≤ q) :
    format.IsMagnitude q :=
  ⟨x.code, hx.finite, by rw [← abs_value h, hx.value, abs_of_nonneg hq]⟩

theorem unique (hp : x.StandsFor p) (hq : x.StandsFor q) : p = q := hp.value.symm.trans hq.value

theorem isBelowZero_iff (h : format.IsWide) (hx : x.StandsFor q) : x.isBelowZero ↔ q < 0 := by
  rw [x.isBelowZero_iff h hx.finite, hx.value]

/-- **The opposite**, which is exact. -/
theorem neg (h : format.IsWide) (hx : x.StandsFor q) : (-x).StandsFor (-q) := by
  have hlt := hx.finite.trans (infinity_lt format)
  have hopposite : -x = ofCode (!x.signBit) x.code := by
    change ofDatum x.datum.neg = _
    rw [datum, if_pos hx.finite, Datum.neg, ofDatum, BinaryFormat.round_magnitude hx.finite.le]
  rw [hopposite]
  refine ⟨(code_ofCode _ hlt).trans_lt hx.finite, ?_⟩
  rw [value_eq h, code_ofCode _ hlt, signBit_ofCode _ hlt, ← hx.value, value_eq h]
  cases x.signBit <;> simp [Datum.signed]

/-- **The size.** -/
theorem abs (h : format.IsWide) (hx : x.StandsFor q) :
    (if x.isBelowZero then -x else x).StandsFor |q| := by
  split
  · next hneg =>
    rw [abs_of_neg ((hx.isBelowZero_iff h).mp hneg)]
    exact hx.neg h
  · next hnonneg =>
    rw [hx.isBelowZero_iff h, not_lt] at hnonneg
    rwa [abs_of_nonneg hnonneg]

/-- **The sum**, if it is not below zero. -/
theorem add (h : format.IsWide) (hx : x.StandsFor p) (hy : y.StandsFor q) (hpq : 0 ≤ p + q)
    (hfinite : format.round (p + q) < format.infinity) :
    (x + y).StandsFor (format.magnitude (format.round (p + q))) := by
  obtain ⟨s, hxdatum, hxsigned⟩ := hx.exists_datum h
  obtain ⟨t, hydatum, hysigned⟩ := hy.exists_datum h
  have hsum : x + y
      = ofDatum (if p + q = 0 then .finite (s && t) 0 else .ofRat (p + q)) := by
    change ofDatum (x.datum.add y.datum) = _
    rw [hxdatum, hydatum, Datum.add, hxsigned, hysigned]
  rw [hsum]
  split
  · next hzero =>
    rw [hzero]
    exact standsFor_ofDatum h (fun _ => rfl) (hzero ▸ hfinite)
  · exact standsFor_ofRat h hpq hfinite

/-- **The difference**, if it is not below zero. -/
theorem sub (h : format.IsWide) (hx : x.StandsFor p) (hy : y.StandsFor q) (hpq : 0 ≤ p - q)
    (hfinite : format.round (p - q) < format.infinity) :
    (x - y).StandsFor (format.magnitude (format.round (p - q))) := by
  obtain ⟨s, hxdatum, hxsigned⟩ := hx.exists_datum h
  obtain ⟨t, hydatum, hysigned⟩ := hy.exists_datum h
  have hopposite : Datum.signed (!t) |q| = -q := by
    rw [← hysigned]
    cases t <;> simp [Datum.signed]
  have hdifference : x - y
      = ofDatum (if p - q = 0 then .finite (s && !t) 0 else .ofRat (p - q)) := by
    change ofDatum (x.datum.add y.datum.neg) = _
    rw [hxdatum, hydatum, Datum.neg, Datum.add, hxsigned, hopposite, ← sub_eq_add_neg]
  rw [hdifference]
  split
  · next hzero =>
    rw [hzero]
    exact standsFor_ofDatum h (fun _ => rfl) (hzero ▸ hfinite)
  · exact standsFor_ofRat h hpq hfinite

/-- **The product** of numbers that are not below zero. -/
theorem mul (h : format.IsWide) (hx : x.StandsFor p) (hy : y.StandsFor q) (hp : 0 ≤ p)
    (hq : 0 ≤ q) (hfinite : format.round (p * q) < format.infinity) :
    (x * y).StandsFor (format.magnitude (format.round (p * q))) := by
  obtain ⟨s, hxdatum, hs⟩ := hx.exists_datum_of_nonneg h hp
  obtain ⟨t, hydatum, ht⟩ := hy.exists_datum_of_nonneg h hq
  have hproduct : x * y = ofDatum (.finite (s != t) (p * q)) := by
    change ofDatum (x.datum.mul y.datum) = _
    rw [hxdatum, hydatum, Datum.mul]
  rw [hproduct]
  refine standsFor_ofDatum h (fun hsign => ?_) hfinite
  cases s with
  | true => rw [hs rfl, zero_mul]
  | false =>
    cases t with
    | true => rw [ht rfl, mul_zero]
    | false => cases hsign

/-- **Small whole numbers are added exactly.** -/
theorem add_natCast (h : format.IsWide) {m n : ℕ} (hx : x.StandsFor m) (hy : y.StandsFor n)
    (hsmall : m + n ≤ 2 ^ (format.fractionBits + 1)) : (x + y).StandsFor (m + n : ℕ) := by
  have hexact := h.isMagnitude_natCast hsmall
  have hcast : ((m + n : ℕ) : ℚ) = (m : ℚ) + n := Nat.cast_add m n
  rw [hcast] at hexact ⊢
  have hsum := hx.add h hy hexact.nonneg hexact.round_lt
  rwa [hexact.magnitude_round] at hsum

/-- **Small whole numbers are multiplied exactly.** -/
theorem mul_natCast (h : format.IsWide) {m n : ℕ} (hx : x.StandsFor m) (hy : y.StandsFor n)
    (hsmall : m * n ≤ 2 ^ (format.fractionBits + 1)) : (x * y).StandsFor (m * n : ℕ) := by
  have hexact := h.isMagnitude_natCast hsmall
  have hcast : ((m * n : ℕ) : ℚ) = (m : ℚ) * n := Nat.cast_mul m n
  rw [hcast] at hexact ⊢
  have hproduct := hx.mul h hy (Nat.cast_nonneg m) (Nat.cast_nonneg n) hexact.round_lt
  rwa [hexact.magnitude_round] at hproduct

/-- **The quotient** of a number that is not below zero and one that is above. -/
theorem div (h : format.IsWide) (hx : x.StandsFor p) (hy : y.StandsFor q) (hp : 0 ≤ p)
    (hq : 0 < q) (hfinite : format.round (p / q) < format.infinity) :
    (x / y).StandsFor (format.magnitude (format.round (p / q))) := by
  obtain ⟨s, hxdatum, hs⟩ := hx.exists_datum_of_nonneg h hp
  have hquotient : x / y = ofDatum (.finite (s != false) (p / q)) := by
    change ofDatum (x.datum.div y.datum) = _
    rw [hxdatum, hy.datum_of_pos h hq, Datum.div, if_neg hq.ne']
  rw [hquotient]
  refine standsFor_ofDatum h (fun hsign => ?_) hfinite
  cases s with
  | true => rw [hs rfl, zero_div]
  | false => cases hsign

/-- What is infinite stays so, whatever number above zero it is divided by. -/
theorem div_of_infinite (h : format.IsWide) {negative : Bool} (hx : x.datum = .infinite negative)
    (hy : y.StandsFor q) (hq : 0 < q) : x / y = ofDatum (.infinite negative) := by
  change ofDatum (x.datum.div y.datum) = _
  rw [hx, hy.datum_of_pos h hq, Datum.div, Bool.bne_false]

/-- **The remainder** of a number that is not below zero and one that is above; it is exact. -/
theorem mod (h : format.IsWide) (hx : x.StandsFor p) (hy : y.StandsFor q) (hp : 0 ≤ p)
    (hq : 0 < q) : (x % y).StandsFor (remainder p q) := by
  obtain ⟨s, hxdatum, hs⟩ := hx.exists_datum_of_nonneg h hp
  have hremainder : x % y = ofDatum (.finite s (remainder p q)) := by
    change ofDatum (x.datum.rem y.datum) = _
    rw [hxdatum, hy.datum_of_pos h hq, Datum.rem, if_neg hq.ne']
    rfl
  have hvalue : format.IsMagnitude (remainder p q) :=
    (hx.isMagnitude h hp).sub_floor_mul (hy.isMagnitude h hq.le) hq
  have hsign (hnegative : s) : remainder p q = 0 := by
    rw [hs hnegative, remainder, zero_div, Int.floor_zero, Int.cast_zero, mul_zero, sub_zero]
  have hround := standsFor_ofDatum h hsign hvalue.round_lt
  rwa [hvalue.magnitude_round, ← hremainder] at hround

/-- **The whole part**, moved into a range. -/
theorem truncate_eq (h : format.IsWide) (hx : x.StandsFor q) (hq : 0 ≤ q) (least greatest : ℤ) :
    x.truncate least greatest = max least (min greatest ⌊q⌋) := by
  obtain ⟨s, hdatum, hs⟩ := hx.exists_datum_of_nonneg h hq
  rw [truncate, hdatum]
  cases s with
  | true =>
    rw [hs rfl, Int.floor_zero]
    rfl
  | false => rfl

end StandsFor

/-! ## Errors -/

/-- Whether a number is a rounded one: at most half a step away, where a power of two says how many
steps one has, and on the same side of each whole number. -/
structure IsRounded (format : BinaryFormat) (power : ℕ) (q rounded : ℚ) : Prop where
  near : |rounded - q| ≤ 1 / 2 / 2 ^ power
  natCast_le {n : ℕ} (hsmall : n ≤ 2 ^ (format.fractionBits + 1)) (hle : n ≤ q) : n ≤ rounded
  le_natCast {n : ℕ} (hsmall : n ≤ 2 ^ (format.fractionBits + 1)) (hle : q ≤ n) : rounded ≤ n

theorem IsRounded.nonneg {power : ℕ} {q rounded : ℚ} (h : IsRounded format power q rounded)
    (hq : 0 ≤ q) : 0 ≤ rounded := by
  have hle := h.natCast_le (Nat.zero_le _) (Nat.cast_zero.trans_le hq)
  rwa [Nat.cast_zero] at hle

/-- **The result of an operation**, if it is the exact one rounded. -/
theorem exists_isRounded (h : format.IsWide) {x : Binary format} {q : ℚ} (hq : 0 ≤ q) (power : ℕ)
    (hpower : power ≤ 2 ^ (format.exponentBits - 1) - 2 + format.fractionBits)
    (hle : q * 2 ^ power ≤ 2 ^ (format.fractionBits + 1))
    (hx : format.round q < format.infinity → x.StandsFor (format.magnitude (format.round q))) :
    ∃ rounded, x.StandsFor rounded ∧ IsRounded format power q rounded := by
  obtain ⟨hfinite, hnear⟩ := h.round_error hq hpower hle
  exact ⟨_, hx hfinite, hnear, fun hsmall => (h.isMagnitude_natCast hsmall).le_magnitude_round,
    fun hsmall => (h.isMagnitude_natCast hsmall).magnitude_round_le hq⟩

end Binary

end VehicleLink
