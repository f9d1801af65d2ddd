import VehicleLink.Proofs.Sentence.Clock
import VehicleLink.Proofs.Sentence.FloatColumn
import VehicleLink.Sentence.Position

/-!
# Proofs/Sentence/Position — positions in sentences

A position in degrees is stored as one number, `ddmm.mmmm`, and written with four decimals.  Its
degrees are exact, and its minutes are rounded three times: as minutes, when the degrees are put in
front of them (`exists_standsFor_ofDegrees`), and when they are written.  None of this goes past the
next whole degree, and so the text has the digits of the degrees, and those of at most sixty minutes
(`positions_written`).

Sixty minutes are one too many.  They are written for what is stored at most half a decimal below a
whole degree, as the last rounding is not carried over to the degrees (`exists_minuteUnits`).
-/

namespace VehicleLink

open BinaryFormat (isWide_double)

/-! ## The digits of degrees and minutes -/

/-- **Whether a text is that of degrees and minutes**: so many digits for the degrees, two for the
minutes and four behind the point, and no sign. -/
def IsDegreesMinutes (digits : ℕ) (text : String) (degrees : ℕ) (minutes : ℚ) : Prop :=
  ∃ degree minute fraction : List Char, text.toList = degree ++ minute ++ '.' :: fraction ∧
    (degree.length = digits ∧ minute.length = 2 ∧ fraction.length = 4) ∧
    (∀ c ∈ degree ++ minute ++ fraction, c.isDigit) ∧
    Nat.ofDigitChars 10 degree 0 = degrees ∧ denoted minute fraction = minutes

/-- A text is that of one number of degrees and minutes. -/
theorem IsDegreesMinutes.unique {digits : ℕ} {text : String} {degrees degrees' : ℕ}
    {minutes minutes' : ℚ} (h : IsDegreesMinutes digits text degrees minutes)
    (h' : IsDegreesMinutes digits text degrees' minutes') :
    degrees = degrees' ∧ minutes = minutes' := by
  obtain ⟨degree, minute, fraction, htext, hlength, -, rfl, rfl⟩ := h
  obtain ⟨degree', minute', fraction', htext', hlength', -, rfl, rfl⟩ := h'
  rw [htext, List.append_assoc, List.append_assoc] at htext'
  obtain ⟨rfl, hrest⟩ := List.append_inj htext' (hlength.1.trans hlength'.1.symm)
  obtain ⟨rfl, hpoint⟩ := List.append_inj hrest (hlength.2.1.trans hlength'.2.1.symm)
  obtain rfl := (List.cons.inj hpoint).2
  exact ⟨rfl, rfl⟩

/-- **A number that fits in the width fills it**: it is written in as many digits as there are places
in front of the point. -/
theorem toList_fixed_of_lt {x : Binary .double} {v : ℚ} (hx : x.StandsFor v) (hv : 0 ≤ v)
    {digits places : ℕ} (hdigits : 0 < digits) (hplaces : places ≠ 0)
    (hsmall : decimalUnits places v < 10 ^ places * 10 ^ digits) :
    ∃ whole fraction, (x.fixed places (digits + (places + 1))).toList = whole ++ '.' :: fraction ∧
      whole.length = digits ∧ fraction.length = places ∧ (∀ c ∈ whole ++ fraction, c.isDigit) ∧
      Nat.ofDigitChars 10 (whole ++ fraction) 0 = decimalUnits places v := by
  obtain ⟨negative, hdatum, -⟩ := hx.exists_datum_of_nonneg isWide_double hv
  obtain ⟨whole, fraction, htext, -, hfraction, hall, hspells, hfilled⟩ :=
    Binary.fixed_eq hdatum places (digits + (places + 1))
  have hunsigned : ¬x.isBelowZero := by
    rw [hx.isBelowZero_iff isWide_double]
    exact not_lt.mpr hv
  have hpointed : pointed places whole fraction = whole ++ '.' :: fraction := if_neg hplaces
  have hlong : (whole ++ '.' :: fraction).length = whole.length + (places + 1) := by
    rw [List.length_append, List.length_cons, hfraction]
  rw [if_neg hunsigned, List.nil_append, hpointed] at htext
  rw [hpointed, hlong] at hfilled
  rw [nearest_pow_ten] at hspells
  refine ⟨whole, fraction, htext, ?_, hfraction, hall, hspells⟩
  refine hfilled.length_eq (List.forall_mem_append.mp hall).1 ?_ hdigits
  rw [← hspells, ofDigitChars_append_zero, hfraction] at hsmall
  exact Nat.lt_of_mul_lt_mul_left ((Nat.le_add_right ..).trans_lt hsmall)

/-- **A number with the units of degrees and minutes is written as these.** -/
theorem isDegreesMinutes_fixed {x : Binary .double} {v : ℚ} (hx : x.StandsFor v) (hv : 0 ≤ v)
    {digits degrees units : ℕ} (hdegrees : degrees < 10 ^ digits) (hsmall : units < 1000000)
    (h : decimalUnits 4 v = 1000000 * degrees + units) :
    IsDegreesMinutes digits (x.fixed 4 (digits + 7)) degrees (units / 10000) := by
  have hfits : decimalUnits 4 v < 10 ^ 4 * 10 ^ (digits + 2) := by
    rw [h, Nat.pow_add]
    omega
  obtain ⟨whole, fraction, htext, hwhole, hfraction, hall, hspells⟩ :=
    toList_fixed_of_lt hx hv (Nat.add_pos_right digits Nat.two_pos) (by decide) hfits
  obtain ⟨degree, minute, rfl, hdegree, hminute⟩ :
      ∃ degree minute, whole = degree ++ minute ∧ degree.length = digits ∧ minute.length = 2 :=
    ⟨whole.take digits, whole.drop digits, (List.take_append_drop ..).symm,
      List.length_take_of_le (hwhole ▸ Nat.le_add_right ..),
      by rw [List.length_drop, hwhole, Nat.add_sub_cancel_left]⟩
  have hrest : (minute ++ fraction).length = 6 := by rw [List.length_append, hminute, hfraction]
  have hback : ∀ c ∈ minute ++ fraction, c.isDigit := by
    rw [List.append_assoc] at hall
    exact (List.forall_mem_append.mp hall).2
  rw [List.append_assoc, h] at hspells
  obtain ⟨hdegreeSpells, hrestSpells⟩ :=
    (ofDigitChars_append_eq_iff hback (by rwa [hrest])).mp (by rwa [hrest])
  refine ⟨degree, minute, fraction, htext, ⟨hdegree, hminute, hfraction⟩, hall, hdegreeSpells, ?_⟩
  rw [denoted_eq, hrestSpells, hfraction]
  norm_num

/-! ## What is stored -/

namespace Binary

/-- The whole degrees of a position, whatever its side. -/
def wholeDegrees (x : Binary .double) : ℕ := ⌊|x.value|⌋₊

/-- The minutes of a position, behind its whole degrees. -/
def exactMinutes (x : Binary .double) : ℚ := 60 * (|x.value| - x.wholeDegrees)

theorem wholeDegrees_le (x : Binary .double) : (x.wholeDegrees : ℚ) ≤ |x.value| :=
  Nat.floor_le (abs_nonneg _)

theorem wholeDegrees_le_of_le {x : Binary .double} {n : ℕ} (h : |x.value| ≤ n) :
    x.wholeDegrees ≤ n :=
  Nat.floor_le_of_le h

theorem exactMinutes_nonneg (x : Binary .double) : 0 ≤ x.exactMinutes :=
  mul_nonneg (by norm_num) (sub_nonneg.mpr x.wholeDegrees_le)

theorem exactMinutes_lt (x : Binary .double) : x.exactMinutes < 60 := by
  have hlt := Nat.lt_floor_add_one |x.value|
  rw [exactMinutes, wholeDegrees]
  linarith

end Binary

/-- The whole degrees are taken off exactly: what is left of a number is one. -/
theorem standsFor_sub_floor {size degrees : Binary .double} {q : ℚ} (hsize : size.StandsFor q)
    (hq : 0 ≤ q) (hdegrees : degrees.StandsFor ⌊q⌋₊) : (size - degrees).StandsFor (q - ⌊q⌋₊) := by
  have hone : BinaryFormat.double.IsMagnitude (1 : ℕ) := isWide_double.isMagnitude_natCast (by decide)
  have hexact := (hsize.isMagnitude isWide_double hq).sub_floor_mul hone (by norm_num)
  rw [Nat.cast_one, div_one, one_mul, ← natCast_floor_eq_intCast_floor hq] at hexact
  have hdifference := hsize.sub isWide_double hdegrees hexact.nonneg hexact.round_lt
  rwa [hexact.magnitude_round] at hdifference

section Stored

variable {x : Binary .double} (hx : x.IsFinite) (hle : |x.value| ≤ (180 : ℕ))

include hx in
theorem standsFor_size : (if x.isBelowZero then -x else x).StandsFor |x.value| :=
  Binary.StandsFor.abs isWide_double ⟨hx, rfl⟩

include hle in
theorem standsFor_wholeDegrees :
    (Binary.ofInt x.wholeDegrees : Binary .double).StandsFor x.wholeDegrees :=
  Binary.standsFor_ofNat ((Binary.wholeDegrees_le_of_le hle).trans (by decide))

include hx hle in
theorem truncate_size : (if x.isBelowZero then -x else x).truncate IntegerType.int32.least
    IntegerType.int32.greatest = x.wholeDegrees := by
  have hsmall := Binary.wholeDegrees_le_of_le hle
  have hleast : IntegerType.int32.least = -2147483648 := rfl
  have hgreatest : IntegerType.int32.greatest = 2147483647 := rfl
  rw [(standsFor_size hx).truncate_eq isWide_double (abs_nonneg _),
    ← Int.natCast_floor_eq_floor (abs_nonneg _), ← Binary.wholeDegrees, hleast, hgreatest]
  omega

include hx hle in
/-- The minutes are rounded once. -/
theorem exists_isRounded_minutes :
    ∃ minutes, (((if x.isBelowZero then -x else x) - .ofInt x.wholeDegrees)
        * .ofInt 60 : Binary .double).StandsFor minutes ∧
      Binary.IsRounded .double 47 x.exactMinutes minutes := by
  have hpart0 : 0 ≤ |x.value| - x.wholeDegrees := sub_nonneg.mpr x.wholeDegrees_le
  have hpart := standsFor_sub_floor (standsFor_size hx) (abs_nonneg _) (standsFor_wholeDegrees hle)
  have hproduct : x.exactMinutes = (|x.value| - x.wholeDegrees) * (60 : ℕ) := mul_comm ..
  have hlt := x.exactMinutes_lt
  refine Binary.exists_isRounded isWide_double x.exactMinutes_nonneg 47 (by decide)
    (by norm_num [BinaryFormat.double]; linarith) ?_
  rw [hproduct]
  exact hpart.mul isWide_double (Binary.standsFor_ofNat (n := 60) (by decide)) hpart0 (by norm_num)

include hx hle in
/-- **Degrees are stored exactly, and minutes behind them**, up to a small error and at most sixty. -/
theorem exists_standsFor_ofDegrees :
    ∃ stored, (ofDegrees x).StandsFor stored ∧ (x.wholeDegrees * 100 : ℕ) ≤ stored ∧
      stored ≤ (x.wholeDegrees * 100 + 60 : ℕ) ∧
      |stored - (x.wholeDegrees * 100 + x.exactMinutes)| ≤ 1 / 2 ^ 38 := by
  have hsmall := Binary.wholeDegrees_le_of_le hle
  have hsmall' : (x.wholeDegrees : ℚ) ≤ 180 := by exact_mod_cast hsmall
  have hlimit (n : ℕ) (hn : n ≤ 18060) : n ≤ 2 ^ (BinaryFormat.double.fractionBits + 1) :=
    hn.trans (by decide)
  obtain ⟨minutes, hminutes, hminutesRounded⟩ := exists_isRounded_minutes hx hle
  have hminutes0 := hminutesRounded.nonneg x.exactMinutes_nonneg
  have hminutesLe := hminutesRounded.le_natCast (n := 60) (by decide)
    (by exact_mod_cast x.exactMinutes_lt.le)
  -- The degrees in front of them are exact, and the sum is rounded once more.
  have hhundreds := (standsFor_wholeDegrees hle).mul_natCast isWide_double
    (Binary.standsFor_ofNat (n := 100) (by decide)) (hlimit (x.wholeDegrees * 100) (by omega))
  have hsum0 : 0 ≤ ((x.wholeDegrees * 100 : ℕ) : ℚ) + minutes :=
    add_nonneg (Nat.cast_nonneg _) hminutes0
  push_cast at hminutesLe
  obtain ⟨stored, hstored, hstoredRounded⟩ := Binary.exists_isRounded isWide_double hsum0 38
    (by decide) (by push_cast; norm_num [BinaryFormat.double]; linarith)
    (hhundreds.add isWide_double hminutes hsum0)
  refine ⟨stored, ?_, hstoredRounded.natCast_le (hlimit _ (by omega)) (by linarith),
    hstoredRounded.le_natCast (hlimit _ (by omega)) (by push_cast; linarith), ?_⟩
  · rw [ofDegrees, truncate_size hx hle]
    exact hstored
  · obtain ⟨hminutesNear, hminutesNear'⟩ := abs_le.mp hminutesRounded.near
    obtain ⟨hstoredNear, hstoredNear'⟩ := abs_le.mp hstoredRounded.near
    push_cast at hstoredNear hstoredNear'
    rw [abs_le]
    constructor <;> linarith

end Stored

/-! ## What is written -/

/-- **The minutes that are written for a stored number**: at most sixty, and sixty exactly if the
number is at most half a decimal below a whole degree. -/
theorem exists_minuteUnits {stored : ℚ} {degrees : ℕ} (hdegrees : (degrees * 100 : ℕ) ≤ stored)
    (hsixty : stored ≤ (degrees * 100 + 60 : ℕ)) :
    ∃ units, decimalUnits 4 stored = 1000000 * degrees + units ∧ units ≤ 600000 ∧
      |(units : ℚ) / 10000 - (stored - degrees * 100)| ≤ 1 / 20000 ∧
      ((units : ℚ) / 10000 < 60 ↔ stored < degrees * 100 + 60 - 1 / 20000) := by
  push_cast at hdegrees hsixty
  have hround := roundsTo_decimalUnits 4 ((by positivity : (0 : ℚ) ≤ degrees * 100).trans hdegrees)
  have hle : 1000000 * degrees ≤ decimalUnits 4 stored :=
    hround.le_of_le (by push_cast; linarith)
  have hge : decimalUnits 4 stored ≤ 1000000 * degrees + 600000 :=
    hround.le_of_ge (by push_cast; linarith)
  obtain ⟨units, hunits⟩ := Nat.exists_eq_add_of_le hle
  refine ⟨units, hunits, by omega, ?_, ?_⟩
  · obtain ⟨hhalf, hhalf'⟩ := abs_le.mp hround.half
    rw [hunits] at hhalf hhalf'
    push_cast at hhalf hhalf'
    rw [abs_le]
    constructor <;> linarith
  · -- Six hundred thousand is even, so what is half a unit below is rounded up to it.
    have hcarry := hround.lt_iff_of_even (m := 1000000 * degrees + 600000) (by omega)
    have hminutes : (60 : ℚ) * 10000 = (600000 : ℕ) := by norm_num
    rw [div_lt_iff₀ (by norm_num), hminutes, Nat.cast_lt, ← Nat.add_lt_add_iff_left, ← hunits, hcarry]
    push_cast
    constructor <;> intro h <;> linarith

/-- **How a position is written**: the text has the digits of the whole degrees, and behind them those
of the minutes, which are off by half a decimal, and by the error of what is stored.  There are less
than sixty exactly if what is stored is more than half a decimal below the next whole degree. -/
structure WritesDegrees (digits : ℕ) (x : Binary .double) (text : String) (minutes : ℚ) : Prop where
  layout : IsDegreesMinutes digits text x.wholeDegrees minutes
  near : |minutes - x.exactMinutes| ≤ 1 / 20000 + 1 / 2 ^ 38
  le_sixty : minutes ≤ 60
  lt_sixty_iff : minutes < 60 ↔ (ofDegrees x).value < x.wholeDegrees * 100 + 60 - 1 / 20000
  lt_sixty (h : x.exactMinutes < 60 - 1 / 20000 - 1 / 2 ^ 38) : minutes < 60
  eq_sixty (h : 60 - 1 / 20000 + 1 / 2 ^ 38 ≤ x.exactMinutes) : minutes = 60

/-- **The number of degrees and minutes is written so.** -/
theorem exists_writesDegrees {x : Binary .double} (hx : x.IsFinite)
    (hle : |x.value| ≤ (180 : ℕ)) {digits : ℕ} (hdigits : x.wholeDegrees < 10 ^ digits) :
    ∃ minutes, WritesDegrees digits x ((ofDegrees x).fixed 4 (digits + 7)) minutes := by
  obtain ⟨stored, hstored, hdegrees, hsixty, herror⟩ := exists_standsFor_ofDegrees hx hle
  obtain ⟨units, hunits, hsmall, hnear, hcarry⟩ := exists_minuteUnits hdegrees hsixty
  have hlayout := isDegreesMinutes_fixed hstored ((Nat.cast_nonneg _).trans hdegrees) hdigits
    (by omega) hunits
  have hle60 : (units : ℚ) / 10000 ≤ 60 := by
    rw [div_le_iff₀ (by norm_num)]
    exact_mod_cast hsmall
  obtain ⟨hnear, hnear'⟩ := abs_le.mp hnear
  obtain ⟨herror, herror'⟩ := abs_le.mp herror
  refine ⟨units / 10000, hlayout, ?_, hle60, hstored.value ▸ hcarry,
    fun h => hcarry.mpr (by linarith), fun h => ?_⟩
  · rw [abs_le]
    constructor <;> linarith
  · exact le_antisymm hle60 (not_lt.mp fun hlt => by linarith [hcarry.mp hlt])

/-! ## Sentences -/

theorem Slot.getElem?_index {α : Type} {a : α} {as : List α} (slot : Slot a as) :
    as[slot.index]? = some a := by
  induction slot with
  | here => rfl
  | there _ ih => exact ih

/-- Different elements have different places. -/
theorem Slot.index_ne {α : Type} {a b : α} (h : a ≠ b) {as : List α} (slot : Slot a as)
    (other : Slot b as) : slot.index ≠ other.index := by
  intro hindex
  have hsame := slot.getElem?_index
  rw [hindex, other.getElem?_index] at hsame
  exact h (Option.some.inj hsame).symm

/-- The side of a position is told by its sign. -/
theorem ite_isAtLeastZero {x : Binary .double} (hx : x.IsFinite) {α : Type} (above below : α) :
    (if x.isAtLeastZero then above else below) = if x.value < 0 then below else above := by
  have hnumber : x.isNaN = false := decide_eq_false (Nat.lt_asymm hx)
  rw [Binary.isAtLeastZero, hnumber, ← ite_not]
  refine if_congr ?_ rfl rfl
  rw [← x.isBelowZero_iff isWide_double hx, Bool.not_false, Bool.true_and, Bool.not_eq_true,
    Bool.not_eq_false']

namespace PositionColumns

variable {columns : List Column} (position : PositionColumns columns)
  (row : Row Column.Value columns) (x : Binary .double)

theorem get_latitude_setLatitude :
    (position.setLatitude row x).get position.latitude = some (ofDegrees x) := by
  have hother := position.latitude.index_ne (by decide) position.latitudeDirection
  exact (Row.get_set_of_ne _ _ _ _ hother).trans (Row.get_set _ _ _)

theorem get_longitude_setLongitude :
    (position.setLongitude row x).get position.longitude = some (ofDegrees x) := by
  have hother := position.longitude.index_ne (by decide) position.longitudeDirection
  exact (Row.get_set_of_ne _ _ _ _ hother).trans (Row.get_set _ _ _)

variable {x} (hx : x.IsFinite)

include hx

theorem get_latitudeDirection_setLatitude :
    (position.setLatitude row x).get position.latitudeDirection
      = some (if x.value < 0 then Direction.south else .north) :=
  (Row.get_set _ _ _).trans (congrArg some (ite_isAtLeastZero hx _ _))

theorem get_longitudeDirection_setLongitude :
    (position.setLongitude row x).get position.longitudeDirection
      = some (if x.value < 0 then Direction.west else .east) :=
  (Row.get_set _ _ _).trans (congrArg some (ite_isAtLeastZero hx _ _))

end PositionColumns

/-- **Positions are written as degrees and minutes**, and these are well-formed but for the minutes
next to a whole degree.

Four types have a position.  A latitude or a longitude that is set gives the south and the west to
what is below zero, and the north and the east to everything else.  The column of its number is then
written without a sign, with two or three digits for its whole degrees, two for its minutes, and four
behind the point.  The minutes are below sixty exactly if what is stored is more than half a decimal
below the next whole degree, and sixty otherwise. -/
theorem positions_written (kind : SentenceKind) :
    (kind.position?.isSome ↔ kind = .gga ∨ kind = .gll ∨ kind = .gns ∨ kind = .rmc) ∧
    ∀ position, kind.position? = some position → ∀ (sentence : kind.type.Sentence)
      (x : Binary .double), x.IsFinite →
      (|x.value| ≤ 90 →
        let set := position.setLatitude sentence x
        let side : Direction := if x.value < 0 then .south else .north
        set.get position.latitudeDirection = some side ∧
          ∃ minutes, WritesDegrees 2 x (Column.latitude.render (set.get position.latitude)) minutes) ∧
      (|x.value| ≤ 180 →
        let set := position.setLongitude sentence x
        let side : Direction := if x.value < 0 then .west else .east
        set.get position.longitudeDirection = some side ∧
          ∃ minutes,
            WritesDegrees 3 x (Column.longitude.render (set.get position.longitude)) minutes) := by
  refine ⟨by cases kind <;> decide, fun position _ sentence x hx => ⟨fun hle => ?_, fun hle => ?_⟩⟩
  · have hdegrees := Binary.wholeDegrees_le_of_le (n := 90) (by exact_mod_cast hle)
    refine ⟨position.get_latitudeDirection_setLatitude sentence hx, ?_⟩
    rw [position.get_latitude_setLatitude]
    exact exists_writesDegrees hx (hle.trans (by norm_num)) (hdegrees.trans_lt (by decide))
  · have hdegrees := Binary.wholeDegrees_le_of_le (n := 180) (by exact_mod_cast hle)
    refine ⟨position.get_longitudeDirection_setLongitude sentence hx, ?_⟩
    rw [position.get_longitude_setLongitude]
    exact exists_writesDegrees hx (by exact_mod_cast hle) (hdegrees.trans_lt (by decide))

/-- Where the geographic position has its columns. -/
def gllPosition : PositionColumns SentenceType.gll.columns :=
  ⟨.here, .there .here, .there (.there .here), .there (.there (.there .here))⟩

/-- Thirty-three and a half degrees, to the south and to the west. -/
theorem positions_written_south_west :
    let x : Binary .double := ⟨0xC040C00000000000⟩
    let south := gllPosition.setLatitude SentenceType.gll.absent x
    let west := gllPosition.setLongitude SentenceType.gll.absent x
    (SentenceKind.gll.position? = some gllPosition ∧ x.IsFinite ∧ |x.value| ≤ 90) ∧
    south.get gllPosition.latitudeDirection = some Direction.south ∧
    (∃ minutes, minutes < 60 ∧
      WritesDegrees 2 x (Column.latitude.render (south.get gllPosition.latitude)) minutes) ∧
    west.get gllPosition.longitudeDirection = some Direction.west ∧
    ∃ minutes, minutes < 60 ∧
      WritesDegrees 3 x (Column.longitude.render (west.get gllPosition.longitude)) minutes := by
  intro x south west
  have hfinite : x.IsFinite := by decide +kernel
  have hsmall : |x.value| ≤ 90 := by decide +kernel
  have hneg : x.value < 0 := by decide +kernel
  have hminutes : x.exactMinutes < 60 - 1 / 20000 - 1 / 2 ^ 38 := by decide +kernel
  obtain ⟨hlatitude, hlongitude⟩ := (positions_written .gll).2 gllPosition rfl
    SentenceType.gll.absent x hfinite
  obtain ⟨hsouth, minutes, hwritten⟩ := hlatitude hsmall
  obtain ⟨hwest, minutes', hwritten'⟩ := hlongitude (hsmall.trans (by norm_num))
  refine ⟨⟨rfl, hfinite, hsmall⟩, ?_, ⟨minutes, hwritten.lt_sixty hminutes, hwritten⟩, ?_,
    minutes', hwritten'.lt_sixty hminutes, hwritten'⟩
  · exact hsouth.trans (congrArg some (if_pos hneg))
  · exact hwest.trans (congrArg some (if_pos hneg))

/-- **Sixty minutes are written**, less than a thousandth of a second below a whole degree. -/
theorem sixty_minutes_written :
    let x : Binary .double := ⟨0x4040FFFFFFEA8671⟩
    let text := Column.latitude.render
      ((gllPosition.setLatitude SentenceType.gll.absent x).get gllPosition.latitude)
    x.IsFinite ∧ |x.value| ≤ 90 ∧ text = "3360.0000" ∧
      ¬∃ degrees minutes, IsDegreesMinutes 2 text degrees minutes ∧ minutes < 60 := by
  intro x text
  have htext : text = "3360.0000" := by decide +kernel
  refine ⟨by decide +kernel, by decide +kernel, htext, ?_⟩
  rw [htext]
  rintro ⟨degrees, minutes, hlayout, hlt⟩
  have hminutes : denoted ['6', '0'] ['0', '0', '0', '0'] = 60 := by
    have hminute : Nat.ofDigitChars 10 ['6', '0'] 0 = 60 := rfl
    have hfraction : Nat.ofDigitChars 10 ['0', '0', '0', '0'] 0 = 0 := rfl
    rw [denoted, hminute, hfraction, Nat.cast_zero, zero_div, add_zero, Nat.cast_ofNat]
  have hsixty : IsDegreesMinutes 2 "3360.0000" 33 60 :=
    ⟨['3', '3'], ['6', '0'], ['0', '0', '0', '0'], by decide, ⟨rfl, rfl, rfl⟩,
      List.all_eq_true.mp rfl, rfl, hminutes⟩
  exact absurd hlt ((hlayout.unique hsixty).2 ▸ lt_irrefl _)

end VehicleLink
