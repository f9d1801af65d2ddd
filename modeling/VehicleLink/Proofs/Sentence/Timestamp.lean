import VehicleLink.Proofs.Sentence.Clock

/-!
# Proofs/Sentence/Timestamp — moments that are stored, and read again

A time of day is stored as one number, and twice rounded on the way: the nanoseconds as a part of a
second, and the sum.  The whole seconds are exact, so the digits before the point are right, and what
is behind it is off by less than a thirtieth of a nanosecond (`exists_standsFor_ofTimeOfDay`).
Reading takes these digits exactly, and rounds three times more before the nanoseconds are cut off;
all errors together stay below the half that is added for this (`nanosecondOf_eq`).  So a time of day
is read again as it was (`timeOfDay?_ofTimeOfDay`).

The nanoseconds of a leap second are those of two seconds.  It is stored as second 60, as the number
`hhmmss.ss` has it, and there is no such second when it is read
(`timeOfDay?_ofTimeOfDay_of_isLeap`).
-/

namespace VehicleLink

open BinaryFormat (isWide_double)

/-! ## The parts of `hhmmss.ss` -/

section Parts

variable {hour minute : ℕ} {t : ℚ}

/-- The digits of a sum of hours, minutes and less than a hundred seconds. -/
theorem remainder_hundred (hour minute : ℕ) (ht : 0 ≤ t) (ht' : t < 100) :
    remainder ((hour * 10000 + minute * 100 : ℕ) + t) 100 = t := by
  have hcount : ((hour * 10000 + minute * 100 : ℕ) : ℚ) = 100 * (hour * 100 + minute : ℤ) := by
    push_cast
    ring
  rw [hcount, remainder_eq (by norm_num) (hour * 100 + minute)]
  all_goals linarith

theorem remainder_tenThousand (hminute : minute < 100) (ht : 0 ≤ t) (ht' : t < 100) :
    remainder ((hour * 10000 + minute * 100 : ℕ) + t) 10000 = minute * 100 + t := by
  have hminute' : (minute : ℚ) + 1 ≤ 100 := by exact_mod_cast hminute
  have hminute0 : (0 : ℚ) ≤ minute := Nat.cast_nonneg minute
  rw [remainder_eq (by norm_num) hour]
  all_goals push_cast; linarith

/-- **The parts are read as they are.** -/
theorem timeOfDay?_eq_some_iff_of_parts {value : Binary .double} {time : TimeOfDay}
    (hvalue : value.StandsFor ((hour * 10000 + minute * 100 : ℕ) + t)) (hminute : minute < 100)
    (ht : 0 ≤ t) (ht' : t < 100) :
    timeOfDay? value = some time
      ↔ hour = time.hour ∧ minute = time.minute ∧ ⌊t⌋ = time.second ∧
        nanosecondOf value = time.nanosecond := by
  have hu : 0 ≤ ((hour * 10000 + minute * 100 : ℕ) : ℚ) + t := add_nonneg (Nat.cast_nonneg _) ht
  have hminute' : (minute : ℚ) + 1 ≤ 100 := by exact_mod_cast hminute
  have hminute0 : (0 : ℚ) ≤ minute := Nat.cast_nonneg minute
  have hhours : ⌊(((hour * 10000 + minute * 100 : ℕ) : ℚ) + t) / 10000⌋ = hour := by
    rw [Int.floor_eq_iff, le_div_iff₀ (by norm_num), div_lt_iff₀ (by norm_num)]
    push_cast
    constructor <;> linarith
  have hminutes : ⌊((minute : ℚ) * 100 + t) / 100⌋ = minute := by
    rw [Int.floor_eq_iff, le_div_iff₀ (by norm_num), div_lt_iff₀ (by norm_num)]
    push_cast
    constructor <;> linarith
  rw [timeOfDay?_eq_some_iff_of_standsFor hvalue hu, remainder_hundred hour minute ht ht',
    remainder_tenThousand hminute ht ht', hhours, hminutes, Nat.cast_inj, Nat.cast_inj]

end Parts

/-- What the seconds are, if their whole part is small. -/
theorem bounds_of_floor {t : ℚ} {n : ℕ} (hfloor : ⌊t⌋ = n) (hn : n < 100) : 0 ≤ t ∧ t < 100 := by
  obtain ⟨hle, hlt⟩ := Int.floor_eq_iff.mp hfloor
  rw [Int.cast_natCast] at hle hlt
  have hnext : (n : ℚ) + 1 ≤ 100 := by exact_mod_cast hn
  have hzero : (0 : ℚ) ≤ n := Nat.cast_nonneg n
  constructor <;> linarith

/-- The half that is added before the nanoseconds are cut off. -/
theorem standsFor_half : (Binary.ofRat (1 / 2) : Binary .double).StandsFor (1 / 2) := by
  have hhalf : BinaryFormat.double.IsMagnitude ((1 : ℕ) / 2 ^ 1) :=
    isWide_double.isMagnitude_div (by decide) (by decide)
  rw [Nat.cast_one, pow_one] at hhalf
  exact Binary.standsFor_ofRat_of_isMagnitude isWide_double hhalf

/-- The nanoseconds of a part of a second, before they are cut off: the part, its nanoseconds and
these and a half are each rounded once. -/
theorem exists_standsFor_nanoseconds {x y : Binary .double} {p q : ℚ} (hx : x.StandsFor p)
    (hy : y.StandsFor q) (hpart0 : 0 ≤ p - q) (hpart1 : p - q ≤ 1) :
    ∃ sum, ((x - y) * .ofInt 1000000000 + .ofRat (1 / 2)).StandsFor sum ∧ 0 ≤ sum ∧
      |sum - ((p - q) * 1000000000 + 1 / 2)| ≤ 1 / 1000000 := by
  have hsmall : 1000000000 ≤ 2 ^ (BinaryFormat.double.fractionBits + 1) := by decide
  obtain ⟨part, hpart, hpartRounded⟩ := Binary.exists_isRounded isWide_double hpart0 53 (by decide)
    (by norm_num [BinaryFormat.double]; linarith) (hx.sub isWide_double hy hpart0)
  have hpartPos := hpartRounded.nonneg hpart0
  have hpartLe : part ≤ (1 : ℕ) := hpartRounded.le_natCast (by decide) (by exact_mod_cast hpart1)
  rw [Nat.cast_one] at hpartLe
  have hproduct0 : 0 ≤ part * (1000000000 : ℕ) := by positivity
  have hproductLe : part * (1000000000 : ℕ) ≤ (1000000000 : ℕ) := by
    push_cast
    linarith
  obtain ⟨product, hproduct, hproductRounded⟩ := Binary.exists_isRounded isWide_double hproduct0 22
    (by decide) (by norm_num [BinaryFormat.double]; linarith)
    (hpart.mul isWide_double (Binary.standsFor_ofNat (by decide)) hpartPos (by norm_num))
  have hproductPos := hproductRounded.nonneg hproduct0
  have hproductLe' := hproductRounded.le_natCast hsmall hproductLe
  have hsum0 : 0 ≤ product + 1 / 2 := add_nonneg hproductPos (by norm_num)
  push_cast at hproductLe'
  obtain ⟨sum, hsum, hsumRounded⟩ := Binary.exists_isRounded isWide_double hsum0 22 (by decide)
    (by norm_num [BinaryFormat.double]; linarith) (hproduct.add isWide_double standsFor_half hsum0)
  refine ⟨sum, hsum, hsumRounded.nonneg hsum0, ?_⟩
  obtain ⟨hpartNear, hpartNear'⟩ := abs_le.mp hpartRounded.near
  obtain ⟨hproductNear, hproductNear'⟩ := abs_le.mp hproductRounded.near
  obtain ⟨hsumNear, hsumNear'⟩ := abs_le.mp hsumRounded.near
  push_cast at hproductNear hproductNear'
  rw [abs_le]
  constructor <;> linarith

/-- **The nanoseconds next to what is behind the point are read.** -/
theorem nanosecondOf_eq {value : Binary .double} {u : ℚ} (hvalue : value.StandsFor u) (hu : 0 ≤ u)
    {second nanosecond : ℕ} (hsecond : ⌊remainder u 100⌋ = second)
    (hnanosecond : nanosecond < 1000000000)
    (hnear : |remainder u 100 - (second + nanosecond / 1000000000)| ≤ 1 / 2 ^ 35) :
    nanosecondOf value = nanosecond := by
  have ht : 0 ≤ remainder u 100 := remainder_nonneg (by norm_num)
  have ht' : remainder u 100 < 100 := remainder_lt (by norm_num)
  have hseconds : (value % .ofInt 100).StandsFor (remainder u 100) :=
    hvalue.mod isWide_double (Binary.standsFor_ofNat (n := 100) (by decide)) hu (by norm_num)
  generalize remainder u 100 = t at *
  obtain ⟨hle, hlt⟩ := Int.floor_eq_iff.mp hsecond
  rw [Int.cast_natCast] at hle hlt
  have hsmall : second < 100 := by exact_mod_cast hle.trans_lt ht'
  have hwhole : (value % .ofInt 100).wholePart = second := by
    rw [hseconds.wholePart_eq ht, hsecond]
    omega
  obtain ⟨sum, hsum, hsum0, hsumNear⟩ := exists_standsFor_nanoseconds hseconds
    (Binary.standsFor_ofNat (hsmall.le.trans (by decide))) (sub_nonneg.mpr hle) (by linarith)
  have hfloor : ⌊sum⌋ = nanosecond := by
    obtain ⟨hnear, hnear'⟩ := abs_le.mp hnear
    obtain ⟨hsumNear, hsumNear'⟩ := abs_le.mp hsumNear
    rw [Int.floor_eq_iff, Int.cast_natCast]
    constructor <;> linarith
  simp only [nanosecondOf, hwhole, hsum.wholePart_eq hsum0, hfloor]
  omega

/-! ## What is stored -/

/-- The whole seconds of a time of day are stored exactly. -/
theorem standsFor_wholeSeconds (time : TimeOfDay) :
    (Binary.ofInt time.hour * .ofInt 10000 + .ofInt time.minute * .ofInt 100
      + .ofInt time.second : Binary .double).StandsFor
        (time.hour * 10000 + time.minute * 100 + time.second : ℕ) := by
  obtain ⟨hhour, hminute, hsecond, -⟩ := time.isTimeOfDay
  have hlimit : 1000000 ≤ 2 ^ (BinaryFormat.double.fractionBits + 1) := by decide
  have hhours := (Binary.standsFor_ofNat (n := time.hour) (by omega)).mul_natCast isWide_double
    (Binary.standsFor_ofNat (n := 10000) (by decide)) (by omega)
  have hminutes := (Binary.standsFor_ofNat (n := time.minute) (by omega)).mul_natCast isWide_double
    (Binary.standsFor_ofNat (n := 100) (by decide)) (by omega)
  have hseconds := Binary.standsFor_ofNat (n := time.second) (by omega)
  exact (hhours.add_natCast isWide_double hminutes (by omega)).add_natCast isWide_double hseconds
    (by omega)

/-- **Nanoseconds that are added to whole seconds stay behind the point**, up to a small error. -/
theorem exists_standsFor_add_nanoseconds {x : Binary .double} {whole nanosecond : ℕ}
    (hx : x.StandsFor whole) (hwhole : whole ≤ 240000) (hnanosecond : nanosecond < 2000000000) :
    ∃ sum, (x + .ofInt nanosecond / .ofInt 1000000000).StandsFor sum ∧
      ⌊sum⌋ = (whole + nanosecond / 1000000000 : ℕ) ∧
      |sum - (whole + nanosecond / 1000000000)| ≤ 1 / 2 ^ 35 := by
  have hlimit : 2000000000 ≤ 2 ^ (BinaryFormat.double.fractionBits + 1) := by decide
  generalize hcarry : nanosecond / 1000000000 = carry
  have hcarryLe : (carry : ℚ) ≤ nanosecond / 1000000000 := by
    rw [le_div_iff₀ (by norm_num)]
    exact_mod_cast (by omega : carry * 1000000000 ≤ nanosecond)
  have hcarryLt : (nanosecond : ℚ) / 1000000000 ≤ carry + 999999999 / 1000000000 := by
    rw [div_le_iff₀ (by norm_num), add_mul, div_mul_cancel₀ _ (by norm_num)]
    exact_mod_cast (by omega : nanosecond ≤ carry * 1000000000 + 999999999)
  have hpartSmall : (nanosecond : ℚ) / 1000000000 ≤ 2 := by
    rw [div_le_iff₀ (by norm_num)]
    exact_mod_cast hnanosecond.le
  have hwhole' : (whole : ℚ) ≤ 240000 := by exact_mod_cast hwhole
  -- The nanoseconds are rounded once as a part of a second, and once more with the whole seconds.
  have hexact0 : (0 : ℚ) ≤ nanosecond / 1000000000 := by positivity
  obtain ⟨part, hpart, hpartRounded⟩ := Binary.exists_isRounded isWide_double hexact0 52
    (by decide) (by norm_num [BinaryFormat.double]; linarith)
    ((Binary.standsFor_ofNat hnanosecond.le).div isWide_double
      (Binary.standsFor_ofNat (n := 1000000000) (by decide)) (Nat.cast_nonneg _) (by norm_num))
  have hpartLe : part ≤ (2 : ℕ) := hpartRounded.le_natCast (by decide) (by exact_mod_cast hpartSmall)
  have hlePart := hpartRounded.natCast_le (by omega) hcarryLe
  rw [Nat.cast_two] at hpartLe
  have hsum0 : 0 ≤ (whole : ℚ) + part :=
    add_nonneg (Nat.cast_nonneg _) (hpartRounded.nonneg hexact0)
  obtain ⟨sum, hsum, hsumRounded⟩ := Binary.exists_isRounded isWide_double hsum0 35
    (by decide) (by norm_num [BinaryFormat.double]; linarith)
    (hx.add isWide_double hpart hsum0)
  have hleSum : ((whole + carry : ℕ) : ℚ) ≤ sum :=
    hsumRounded.natCast_le (by omega) (by push_cast; linarith)
  obtain ⟨hpartNear, hpartNear'⟩ := abs_le.mp hpartRounded.near
  obtain ⟨hsumNear, hsumNear'⟩ := abs_le.mp hsumRounded.near
  refine ⟨sum, hsum, ?_, ?_⟩
  · rw [Int.floor_eq_iff, Int.cast_natCast]
    refine ⟨hleSum, ?_⟩
    push_cast
    linarith
  · rw [abs_le]
    constructor <;> linarith

/-- **A time of day is stored as a number close to it**, with its whole seconds before the point.
Those of a leap second make them sixty. -/
theorem exists_standsFor_ofTimeOfDay (time : TimeOfDay) :
    ∃ t, (ofTimeOfDay time).StandsFor ((time.hour * 10000 + time.minute * 100 : ℕ) + t) ∧
      ⌊t⌋ = (time.second + time.nanosecond / 1000000000 : ℕ) ∧
      |t - (time.second + time.nanosecond / 1000000000)| ≤ 1 / 2 ^ 35 := by
  obtain ⟨hhour, hminute, hsecond, hnanosecond, -⟩ := time.isTimeOfDay
  obtain ⟨sum, hsum, hfloor, hnear⟩ :=
    exists_standsFor_add_nanoseconds (standsFor_wholeSeconds time) (by omega) hnanosecond
  refine ⟨sum - (time.hour * 10000 + time.minute * 100 : ℕ), ?_, ?_, ?_⟩
  · rw [add_sub_cancel]
    exact hsum
  · rw [Int.floor_sub_natCast, hfloor]
    omega
  · rw [Nat.cast_add _ time.second] at hnear
    convert hnear using 2
    ring

/-! ## What is read again -/

/-- Whether a time of day is in a leap second, whose nanoseconds are those of two seconds. -/
def TimeOfDay.IsLeap (time : TimeOfDay) : Prop := 1000000000 ≤ time.nanosecond

instance : DecidablePred TimeOfDay.IsLeap := fun _ => Nat.decLe _ _

section Reread

variable {time : TimeOfDay}

/-- **A time of day is read again, to the nanosecond**, unless it is in a leap second. -/
theorem timeOfDay?_ofTimeOfDay (h : ¬time.IsLeap) :
    timeOfDay? (ofTimeOfDay time) = some time := by
  obtain ⟨hhour, hminute, hsecond, -⟩ := time.isTimeOfDay
  have hlt : time.nanosecond < 1000000000 := not_le.mp h
  obtain ⟨t, hstored, hfloor, hnear⟩ := exists_standsFor_ofTimeOfDay time
  rw [Nat.div_eq_of_lt hlt, Nat.add_zero] at hfloor
  obtain ⟨ht, ht'⟩ := bounds_of_floor hfloor (by omega)
  have hu : 0 ≤ ((time.hour * 10000 + time.minute * 100 : ℕ) : ℚ) + t :=
    add_nonneg (Nat.cast_nonneg _) ht
  have hpart := remainder_hundred time.hour time.minute ht ht'
  have hnanosecond : nanosecondOf (ofTimeOfDay time) = time.nanosecond :=
    nanosecondOf_eq hstored hu (hpart ▸ hfloor) hlt (hpart.symm ▸ hnear)
  rw [timeOfDay?_eq_some_iff_of_parts hstored (hminute.trans (by decide)) ht ht']
  exact ⟨rfl, rfl, hfloor, hnanosecond⟩

/-- **A leap second is stored as the sixtieth of its minute, and refused.** -/
theorem timeOfDay?_ofTimeOfDay_of_isLeap (h : time.IsLeap) :
    timeOfDay? (ofTimeOfDay time) = none := by
  obtain ⟨hhour, hminute, hsecond, hnanosecond, hleap⟩ := time.isTimeOfDay
  have hge : 1000000000 ≤ time.nanosecond := h
  obtain ⟨t, hstored, hfloor, -⟩ := exists_standsFor_ofTimeOfDay time
  have hsixty : time.second + time.nanosecond / 1000000000 = 60 := by omega
  rw [hsixty] at hfloor
  obtain ⟨ht, ht'⟩ := bounds_of_floor hfloor (by decide)
  refine Option.eq_none_iff_forall_ne_some.mpr fun read hread => ?_
  rw [timeOfDay?_eq_some_iff_of_parts hstored (hminute.trans (by decide)) ht ht', hfloor] at hread
  obtain ⟨-, -, hsecond', -⟩ := read.isTimeOfDay
  omega

/-- So no moment is read of a sentence whose column of the time holds a leap second. -/
theorem eq_none_of_isLeap {reading : Option (Binary .double)} {ReadsDate : Date → Prop}
    {outcome : Option Moment}
    (h : ∀ moment, outcome = some moment ↔ ReadsTime reading moment.time ∧ ReadsDate moment.date)
    (hreading : reading = some (ofTimeOfDay time)) (hleap : time.IsLeap) : outcome = none := by
  refine Option.eq_none_iff_forall_ne_some.mpr fun moment hread => ?_
  have htime := ((h moment).mp hread).1
  rw [hreading, readsTime_some_iff, timeOfDay?_ofTimeOfDay_of_isLeap hleap] at htime
  cases htime

end Reread

namespace SentenceType

namespace Zda

variable (sentence : zda.Sentence) {moment : Moment}

theorem getMoment_setMoment (h : ¬moment.time.IsLeap) :
    getMoment (setMoment sentence moment) = some moment :=
  getMoment_eq_some_iff.mpr
    ⟨⟨_, get_timeSlot_setMoment sentence moment, timeOfDay?_ofTimeOfDay h⟩,
      readsDate_setMoment sentence moment⟩

theorem getMoment_setMoment_of_isLeap (h : moment.time.IsLeap) :
    getMoment (setMoment sentence moment) = none :=
  eq_none_of_isLeap (fun _ => getMoment_eq_some_iff) (get_timeSlot_setMoment sentence moment) h

end Zda

namespace Rmc

variable (sentence : rmc.Sentence) {moment : Moment}

theorem getMoment_setMoment (h : ¬moment.time.IsLeap) :
    getMoment (setMoment sentence moment) = some ⟨moment.date.ofCentury, moment.time⟩ :=
  getMoment_eq_some_iff.mpr
    ⟨⟨_, get_timeSlot_setMoment sentence moment, timeOfDay?_ofTimeOfDay h⟩,
      readsDate_of_get_dateSlot_eq rfl⟩

theorem getMoment_setMoment_of_isLeap (h : moment.time.IsLeap) :
    getMoment (setMoment sentence moment) = none :=
  eq_none_of_isLeap (fun _ => getMoment_eq_some_iff) (get_timeSlot_setMoment sentence moment) h

end Rmc

/-- **What is stored is read again**, to the nanosecond, exactly if it is not in a leap second.

From the time and date sentence the same moment is read; from the recommended minimum data the same
day and time in the year of this century with the same two digits.  From neither is any moment read
if a leap second was stored.  No column changes but those of the time and the date. -/
theorem moments_read_back (dated : zda.Sentence) (minimum : rmc.Sentence) (moment : Moment) :
    ((Zda.getMoment (Zda.setMoment dated moment) = some moment ↔ ¬moment.time.IsLeap) ∧
      (moment.time.IsLeap → Zda.getMoment (Zda.setMoment dated moment) = none) ∧
      ∀ {column : Column} (slot : Slot column zda.columns),
        slot.index ≠ Zda.timeSlot.index → slot.index ≠ Zda.daySlot.index →
        slot.index ≠ Zda.monthSlot.index → slot.index ≠ Zda.yearSlot.index →
          (Zda.setMoment dated moment).get slot = dated.get slot) ∧
    ((∃ date : Date, Rmc.getMoment (Rmc.setMoment minimum moment) = some ⟨date, moment.time⟩ ∧
        date.year = 2000 + moment.date.year % 100 ∧ date.month = moment.date.month ∧
        date.day = moment.date.day) ↔ ¬moment.time.IsLeap) ∧
    (moment.time.IsLeap → Rmc.getMoment (Rmc.setMoment minimum moment) = none) ∧
    ∀ {column : Column} (slot : Slot column rmc.columns),
      slot.index ≠ Rmc.timeSlot.index → slot.index ≠ Rmc.dateSlot.index →
        (Rmc.setMoment minimum moment).get slot = minimum.get slot := by
  have hlostZda : moment.time.IsLeap → Zda.getMoment (Zda.setMoment dated moment) = none :=
    Zda.getMoment_setMoment_of_isLeap dated
  have hlostRmc : moment.time.IsLeap → Rmc.getMoment (Rmc.setMoment minimum moment) = none :=
    Rmc.getMoment_setMoment_of_isLeap minimum
  refine ⟨⟨⟨fun hread hleap => ?_, Zda.getMoment_setMoment dated⟩, hlostZda,
    Zda.get_setMoment dated moment⟩, ⟨?_, fun hregular => ?_⟩, hlostRmc,
    Rmc.get_setMoment minimum moment⟩
  · rw [hlostZda hleap] at hread
    cases hread
  · rintro ⟨date, hread, -⟩ hleap
    rw [hlostRmc hleap] at hread
    cases hread
  · exact ⟨moment.date.ofCentury, Rmc.getMoment_setMoment minimum hregular, rfl, rfl, rfl⟩

/-- A moment at the end of a year that a second was added to, so many nanoseconds after 23:59:59. -/
def endOfYear (nanosecond : Nat) (h : nanosecond < 2000000000) : Moment where
  date := ⟨2016, 12, 31, by decide⟩
  time := ⟨23, 59, 59, nanosecond, by decide, by decide, by decide, h, .inr rfl⟩

/-- The last nanosecond before the added second is read again, and half a second later there is none
to read.  The columns right behind those of the time and the date stay. -/
theorem moments_read_back_endOfYear :
    let before := endOfYear 999999999 (by decide)
    let within := endOfYear 1500000000 (by decide)
    let zone : Slot (.integer "local_zone_hours" 2) zda.columns :=
      .there (.there (.there (.there .here)))
    let status : Slot (.indicator "status" .status) rmc.columns := .there .here
    (Zda.getMoment (Zda.setMoment zda.absent before) = some before ∧
      Zda.getMoment (Zda.setMoment zda.absent within) = none ∧
      (Zda.setMoment zda.absent within).get zone = zda.absent.get zone) ∧
    (∃ date : Date, Rmc.getMoment (Rmc.setMoment rmc.absent before) = some ⟨date, before.time⟩) ∧
    Rmc.getMoment (Rmc.setMoment rmc.absent within) = none ∧
    (Rmc.setMoment rmc.absent within).get status = rmc.absent.get status := by
  intro before within zone status
  obtain ⟨⟨hreadZda, -⟩, hreadRmc, -⟩ := moments_read_back zda.absent rmc.absent before
  obtain ⟨⟨-, hlostZda, hzone⟩, -, hlostRmc, hstatus⟩ :=
    moments_read_back zda.absent rmc.absent within
  obtain ⟨date, hdate, -⟩ := hreadRmc.mpr (by decide)
  exact ⟨⟨hreadZda.mpr (by decide), hlostZda (by decide),
      hzone zone (by decide) (by decide) (by decide) (by decide)⟩,
    ⟨date, hdate⟩, hlostRmc (by decide), hstatus status (by decide) (by decide)⟩

/-- **A leap second that was stored is lost**: its moment exists, but none is read. -/
theorem leap_second_not_read_back :
    ¬∀ (sentence : zda.Sentence) (moment : Moment),
      Zda.getMoment (Zda.setMoment sentence moment) = some moment := by
  intro h
  have hread := h zda.absent (endOfYear 1500000000 (by decide))
  exact absurd hread (by decide +kernel)

end SentenceType

end VehicleLink
