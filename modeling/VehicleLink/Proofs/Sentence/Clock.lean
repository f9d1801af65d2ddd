import VehicleLink.Proofs.Number.Arithmetic
import VehicleLink.Proofs.Sentence.Date
import VehicleLink.Sentence.Raw

/-!
# Proofs/Sentence/Clock — times of day in sentences

The column of the time holds a number `hhmmss.ss`, and what is read from it are the digits of
exactly this number (`timeOfDay?_eq_some_iff_of_standsFor`).  The quotients that give them are
rounded, but never to the next whole number, and the remainders are exact.  So a number is read if
its digits are those of a time of day (`Binary.IsClock`), and refused if they are not, if it is below
zero or if it is infinite.

The guard does not refuse what is no number at all: each part of it is taken for zero, and midnight
is read (`timeOfDay?_of_isNaN`).  With this one exception, a moment is read exactly if the columns
show one (`times_of_day_checked`).
-/

namespace VehicleLink

open BinaryFormat (isWide_double)

namespace TimeOfDay

/-- The start of a day. -/
def midnight : TimeOfDay := ⟨0, 0, 0, 0, by decide⟩

theorem ofHms?_eq_some_iff {hour minute second nanosecond : Nat} {time : TimeOfDay} :
    ofHms? hour minute second nanosecond = some time
      ↔ hour = time.hour ∧ minute = time.minute ∧ second = time.second ∧
        nanosecond = time.nanosecond := by
  rw [ofHms?]
  constructor
  · intro h
    split at h
    · rw [← Option.some.inj h]
      exact ⟨rfl, rfl, rfl, rfl⟩
    · cases h
  · rintro ⟨rfl, rfl, rfl, rfl⟩
    exact dif_pos time.isTimeOfDay

end TimeOfDay

/-! ## Digits of a number -/

namespace Binary

/-- The part before the point, as far as 32 bits hold it. -/
def wholePart (x : Binary .double) : Int :=
  x.truncate IntegerType.uint32.least IntegerType.uint32.greatest

/-- The whole numbers of the reader are kept. -/
theorem standsFor_ofNat {n : ℕ} (hn : n ≤ 2000000000) : (ofInt n : Binary .double).StandsFor n :=
  standsFor_ofInt isWide_double (hn.trans (by decide))

namespace StandsFor

variable {x : Binary .double} {q : ℚ}

theorem wholePart_eq (hx : x.StandsFor q) (hq : 0 ≤ q) : x.wholePart = min 4294967295 ⌊q⌋ := by
  have hfloor := Int.floor_nonneg.mpr hq
  have hleast : IntegerType.uint32.least = 0 := rfl
  have hgreatest : IntegerType.uint32.greatest = 4294967295 := rfl
  rw [wholePart, hx.truncate_eq isWide_double hq, hleast, hgreatest]
  omega

theorem toNat_wholePart_eq_iff (hx : x.StandsFor q) (hq : 0 ≤ q) {n : ℕ} (hn : n < 4294967295) :
    x.wholePart.toNat = n ↔ ⌊q⌋ = n := by
  have hfloor := Int.floor_nonneg.mpr hq
  rw [hx.wholePart_eq hq]
  omega

/-- **Two digits behind the divisor's zeros are those of the exact quotient.** -/
theorem toNat_wholePart_div_eq_iff (hx : x.StandsFor q) (hq : 0 ≤ q) {divisor n : ℕ}
    (hpos : 0 < divisor) (hdivisor : divisor ≤ 10000) (hn : n < 100) :
    (x / ofInt divisor).wholePart.toNat = n ↔ ⌊q / divisor⌋ = n := by
  have hsmall {count : ℕ} (hcount : count ≤ 100) :
      count * divisor ≤ 2 ^ (BinaryFormat.double.fractionBits + 1) :=
    (Nat.mul_le_mul hcount hdivisor).trans (by decide)
  have hdiv : (0 : ℚ) < divisor := Nat.cast_pos.mpr hpos
  have hone : (1 : ℚ) ≤ divisor := Nat.one_le_cast.mpr hpos
  have hvalue := hx.isMagnitude isWide_double hq
  have hquotient := hx.div isWide_double (standsFor_ofNat (hdivisor.trans (by decide))) hq hdiv
    (hvalue.round_lt_of_le (div_nonneg hq hdiv.le) (div_le_self hq hone))
  have hside {count : ℕ} (hcount : count ≤ 100) :=
    isWide_double.magnitude_round_div_lt_iff (by decide) hvalue hpos (hsmall hcount)
  rw [hquotient.toNat_wholePart_eq_iff (BinaryFormat.magnitude_nonneg ..) (by omega),
    Int.floor_eq_iff, Int.floor_eq_iff, ← not_lt, ← not_lt]
  have hbelow := hside hn.le
  have habove := hside (Nat.succ_le_of_lt hn)
  rw [Nat.cast_succ] at habove
  exact and_congr (not_congr hbelow) habove

end StandsFor

/-- Whether `hhmmss.ss` are the digits of a time of day. -/
structure IsClock (x : Binary .double) : Prop where
  finite : x.code < BinaryFormat.double.infinity
  nonneg : 0 ≤ x.value
  hour_lt : ⌊x.value / 10000⌋ < 24
  minute_lt : ⌊remainder x.value 10000 / 100⌋ < 60
  second_lt : ⌊remainder x.value 100⌋ < 60

/-- Whether `hhmmss` are the digits of this time of day before the point. -/
structure Shows (x : Binary .double) (time : TimeOfDay) : Prop where
  finite : x.code < BinaryFormat.double.infinity
  nonneg : 0 ≤ x.value
  hour : ⌊x.value / 10000⌋ = time.hour
  minute : ⌊remainder x.value 10000 / 100⌋ = time.minute
  second : ⌊remainder x.value 100⌋ = time.second

theorem IsClock.not_isNaN {x : Binary .double} (h : x.IsClock) : ¬x.isNaN := by
  rw [isNaN, decide_eq_true_eq]
  exact Nat.lt_asymm h.finite

theorem Shows.isClock {x : Binary .double} {time : TimeOfDay} (h : x.Shows time) : x.IsClock := by
  obtain ⟨hhour, hminute, hsecond, -⟩ := time.isTimeOfDay
  exact ⟨h.finite, h.nonneg, by rw [h.hour]; omega, by rw [h.minute]; omega,
    by rw [h.second]; omega⟩

end Binary

/-! ## Reading a time of day -/

/-- The nanoseconds that are read from a number: those behind its point, to the nearest one, but
never a whole second of them. -/
def nanosecondOf (value : Binary .double) : Nat :=
  let seconds := value % .ofInt 100
  let nanoseconds := (seconds - .ofInt seconds.wholePart) * .ofInt 1000000000 + .ofRat (1 / 2)
  (min nanoseconds.wholePart 999999999).toNat

theorem nanosecondOf_lt (value : Binary .double) : nanosecondOf value < 1000000000 := by
  have hmin : ∀ i : Int, (min i 999999999).toNat < 1000000000 := by omega
  exact hmin _

/-- What is read, if the guard lets it pass. -/
theorem timeOfDay?_eq {value : Binary .double} (h : ¬value.isBelowZero) :
    timeOfDay? value = TimeOfDay.ofHms? (value / .ofInt 10000).wholePart.toNat
      (value % .ofInt 10000 / .ofInt 100).wholePart.toNat (value % .ofInt 100).wholePart.toNat
      (nanosecondOf value) := if_neg h

section Reading

variable {value : Binary .double} {time : TimeOfDay}

/-- **The digits of the number are read**, and those of no number close to it. -/
theorem timeOfDay?_eq_some_iff_of_standsFor {u : ℚ} (hvalue : value.StandsFor u) (hu : 0 ≤ u) :
    timeOfDay? value = some time
      ↔ ⌊u / 10000⌋ = time.hour ∧ ⌊remainder u 10000 / 100⌋ = time.minute ∧
        ⌊remainder u 100⌋ = time.second ∧ nanosecondOf value = time.nanosecond := by
  obtain ⟨hhour, hminute, hsecond, -⟩ := time.isTimeOfDay
  have hguard : ¬value.isBelowZero := by
    rw [hvalue.isBelowZero_iff isWide_double]
    exact not_lt.mpr hu
  have hminutes := hvalue.mod isWide_double (Binary.standsFor_ofNat (n := 10000) (by decide)) hu
    (by norm_num)
  have hseconds := hvalue.mod isWide_double (Binary.standsFor_ofNat (n := 100) (by decide)) hu
    (by norm_num)
  rw [timeOfDay?_eq hguard, TimeOfDay.ofHms?_eq_some_iff]
  refine and_congr ?_ (and_congr ?_ (and_congr_left' ?_))
  · exact hvalue.toNat_wholePart_div_eq_iff hu (by decide) le_rfl (hhour.trans (by decide))
  · exact hminutes.toNat_wholePart_div_eq_iff (remainder_nonneg (by norm_num)) (by decide)
      (by decide) (hminute.trans (by decide))
  · exact hseconds.toNat_wholePart_eq_iff (remainder_nonneg (by norm_num))
      (hsecond.trans (by decide))

/-- **What is no number is read as midnight.** -/
theorem timeOfDay?_of_isNaN (h : value.isNaN) : timeOfDay? value = some .midnight := by
  have hdatum := Binary.datum_eq_nan_iff.mpr h
  have hguard : ¬value.isBelowZero := by
    rw [Binary.isBelowZero, hdatum]
    exact Bool.false_ne_true
  have hnan : (Binary.ofDatum .nan : Binary .double).datum = .nan :=
    Binary.datum_ofDatum_nan (by decide)
  have hwhole : (Binary.ofDatum .nan).wholePart = 0 := by
    rw [Binary.wholePart, Binary.truncate, hnan]
  have hnanosecond : nanosecondOf value = 0 := by
    rw [nanosecondOf, Binary.mod_of_nan hdatum, Binary.sub_of_nan hnan, Binary.mul_of_nan hnan,
      Binary.add_of_nan hnan, hwhole]
    rfl
  rw [timeOfDay?_eq hguard, hnanosecond, Binary.mod_of_nan hdatum, Binary.mod_of_nan hdatum,
    Binary.div_of_nan hdatum, Binary.div_of_nan hnan, hwhole]
  rfl

/-- Nothing is read from what is infinite: there are no hours that are this many. -/
theorem timeOfDay?_of_infinite (h : value.code = BinaryFormat.double.infinity) :
    timeOfDay? value = none := by
  have hdatum : value.datum = .infinite value.signBit := by
    rw [Binary.datum, if_neg h.not_lt, if_pos h]
  by_cases hguard : value.isBelowZero
  · exact if_pos hguard
  · have hsign : value.signBit = false := by
      rwa [Binary.isBelowZero, hdatum, Bool.not_eq_true] at hguard
    rw [hsign] at hdatum
    have hquotient : value / .ofInt 10000 = .ofDatum (.infinite false) :=
      (Binary.standsFor_ofNat (n := 10000) (by decide)).div_of_infinite isWide_double hdatum
        (by norm_num)
    have hhours : (value / .ofInt 10000).wholePart = 4294967295 := by
      rw [hquotient, Binary.wholePart, Binary.truncate, Binary.datum_ofDatum_infinite]
      rfl
    rw [timeOfDay?_eq hguard, hhours]
    exact dif_neg fun htime => absurd htime.1 (by decide)

/-- What is below zero is refused. -/
theorem timeOfDay?_of_neg {u : ℚ} (hvalue : value.StandsFor u) (hu : u < 0) :
    timeOfDay? value = none :=
  if_pos ((hvalue.isBelowZero_iff isWide_double).mpr hu)

/-- **What is read is shown**, or is midnight that no number shows. -/
theorem shows_of_timeOfDay? (h : timeOfDay? value = some time) :
    value.Shows time ∨ value.isNaN ∧ time = .midnight := by
  rcases Nat.lt_trichotomy value.code BinaryFormat.double.infinity with hfinite | hinfinite | hnan
  · have hvalue : value.StandsFor value.value := ⟨hfinite, rfl⟩
    rcases lt_or_ge value.value 0 with hneg | hnonneg
    · rw [timeOfDay?_of_neg hvalue hneg] at h
      cases h
    · obtain ⟨hhour, hminute, hsecond, -⟩ :=
        (timeOfDay?_eq_some_iff_of_standsFor hvalue hnonneg).mp h
      exact .inl ⟨hfinite, hnonneg, hhour, hminute, hsecond⟩
  · rw [timeOfDay?_of_infinite hinfinite] at h
    cases h
  · have hnan' : value.isNaN := decide_eq_true hnan
    rw [timeOfDay?_of_isNaN hnan'] at h
    exact .inr ⟨hnan', (Option.some.inj h).symm⟩

/-- **The digits of a time of day are read.** -/
theorem exists_timeOfDay?_of_isClock (h : value.IsClock) :
    ∃ time, timeOfDay? value = some time := by
  have hvalue : value.StandsFor value.value := ⟨h.finite, rfl⟩
  have hhour : 0 ≤ ⌊value.value / 10000⌋ :=
    Int.floor_nonneg.mpr (div_nonneg h.nonneg (by norm_num))
  have hminute : 0 ≤ ⌊remainder value.value 10000 / 100⌋ :=
    Int.floor_nonneg.mpr (div_nonneg (remainder_nonneg (by norm_num)) (by norm_num))
  have hsecond : 0 ≤ ⌊remainder value.value 100⌋ :=
    Int.floor_nonneg.mpr (remainder_nonneg (by norm_num))
  obtain ⟨hour, hhour'⟩ := Int.eq_ofNat_of_zero_le hhour
  obtain ⟨minute, hminute'⟩ := Int.eq_ofNat_of_zero_le hminute
  obtain ⟨second, hsecond'⟩ := Int.eq_ofNat_of_zero_le hsecond
  have hnanosecond := nanosecondOf_lt value
  have htime : IsTimeOfDay hour minute second (nanosecondOf value) :=
    ⟨by have := h.hour_lt; omega, by have := h.minute_lt; omega, by have := h.second_lt; omega,
      by omega, .inl hnanosecond⟩
  exact ⟨⟨hour, minute, second, nanosecondOf value, htime⟩,
    (timeOfDay?_eq_some_iff_of_standsFor hvalue h.nonneg).mpr ⟨hhour', hminute', hsecond', rfl⟩⟩

end Reading

/-! ## Moments -/

/-- Whether only real times of day are read: a moment has the digits that the column of the time
shows, and there is one exactly if these are the digits of a time of day and there is a day. -/
structure TimeChecked (reading : Option (Binary .double)) (ReadsDate : Date → Prop)
    (outcome : Option Moment) : Prop where
  shown {moment : Moment} (h : outcome = some moment) :
    ∃ value, reading = some value ∧ value.Shows moment.time
  isSome_iff :
    outcome.isSome ↔ (∃ value, reading = some value ∧ value.IsClock) ∧ ∃ date, ReadsDate date

section Moments

variable {reading : Option (Binary .double)} {ReadsDate : Date → Prop} {outcome : Option Moment}
  (h : ∀ moment, outcome = some moment ↔ ReadsTime reading moment.time ∧ ReadsDate moment.date)

include h

/-- A day with no number for a time is read as its midnight. -/
theorem eq_midnight_of_isNaN {value : Binary .double} (hreading : reading = some value)
    (hnan : value.isNaN) {date : Date} (hdate : ReadsDate date) :
    outcome = some ⟨date, .midnight⟩ :=
  (h ⟨date, .midnight⟩).mpr ⟨⟨value, hreading, timeOfDay?_of_isNaN hnan⟩, hdate⟩

/-- If no day comes with what is no number, only real times of day are read. -/
theorem timeChecked_of_not_isNaN
    (hnan : ¬((∃ value, reading = some value ∧ value.isNaN) ∧ ∃ date, ReadsDate date)) :
    TimeChecked reading ReadsDate outcome := by
  have hshown {moment : Moment} (hread : outcome = some moment) :
      ∃ value, reading = some value ∧ value.Shows moment.time := by
    obtain ⟨⟨value, hvalue, htime⟩, hdate⟩ := (h moment).mp hread
    exact ⟨value, hvalue, (shows_of_timeOfDay? htime).resolve_right fun hmidnight =>
      hnan ⟨⟨value, hvalue, hmidnight.1⟩, _, hdate⟩⟩
  refine ⟨hshown, ?_⟩
  rw [Option.isSome_iff_exists]
  constructor
  · rintro ⟨moment, hread⟩
    obtain ⟨value, hvalue, hshows⟩ := hshown hread
    exact ⟨⟨value, hvalue, hshows.isClock⟩, _, ((h moment).mp hread).2⟩
  · rintro ⟨⟨value, hvalue, hclock⟩, date, hdate⟩
    obtain ⟨time, htime⟩ := exists_timeOfDay?_of_isClock hclock
    exact ⟨⟨date, time⟩, (h ⟨date, time⟩).mpr ⟨⟨value, hvalue, htime⟩, hdate⟩⟩

/-- **When only real times of day are read.** -/
theorem timeChecked_iff : TimeChecked reading ReadsDate outcome
    ↔ ¬((∃ value, reading = some value ∧ value.isNaN) ∧ ∃ date, ReadsDate date) := by
  refine ⟨?_, timeChecked_of_not_isNaN h⟩
  rintro hchecked ⟨⟨value, hvalue, hnan⟩, date, hdate⟩
  obtain ⟨shown, hshown, hshows⟩ := hchecked.shown (eq_midnight_of_isNaN h hvalue hnan hdate)
  obtain rfl := Option.some.inj (hvalue.symm.trans hshown)
  exact hshows.isClock.not_isNaN hnan

end Moments

namespace SentenceType

/-- **Only real times of day are read**, but for what is no number.

From the recommended minimum data and from the time and date sentence, a moment is read with exactly
the hour, the minute and the second that the column of the time shows, and none is read if this does
not show a time of day: if it is infinite, below zero, or has other digits.  This fails exactly if
the column holds no number at all and there is a day, and then midnight of this day is read. -/
theorem times_of_day_checked (minimum : rmc.Sentence) (dated : zda.Sentence) :
    ((TimeChecked (minimum.get Rmc.timeSlot) (Rmc.ReadsDate minimum) (Rmc.getMoment minimum)
        ↔ ¬((∃ value : Binary .double, minimum.get Rmc.timeSlot = some value ∧ value.isNaN) ∧
          ∃ date, Rmc.ReadsDate minimum date)) ∧
      ∀ value : Binary .double, minimum.get Rmc.timeSlot = some value → value.isNaN →
        ∀ date, Rmc.ReadsDate minimum date → Rmc.getMoment minimum = some ⟨date, .midnight⟩) ∧
    (TimeChecked (dated.get Zda.timeSlot) (Zda.ReadsDate dated) (Zda.getMoment dated)
      ↔ ¬((∃ value : Binary .double, dated.get Zda.timeSlot = some value ∧ value.isNaN) ∧
        ∃ date, Zda.ReadsDate dated date)) ∧
    ∀ value : Binary .double, dated.get Zda.timeSlot = some value → value.isNaN →
      ∀ date, Zda.ReadsDate dated date → Zda.getMoment dated = some ⟨date, .midnight⟩ :=
  ⟨⟨timeChecked_iff fun _ => Rmc.getMoment_eq_some_iff,
      fun _ hvalue hnan _ => eq_midnight_of_isNaN (fun _ => Rmc.getMoment_eq_some_iff) hvalue hnan⟩,
    timeChecked_iff fun _ => Zda.getMoment_eq_some_iff,
    fun _ hvalue hnan _ => eq_midnight_of_isNaN (fun _ => Zda.getMoment_eq_some_iff) hvalue hnan⟩

/-- What is received as the time and date sentence of a day in July, with a token for the time. -/
def receivedInJuly (time : String) : Except LinkError zda.Sentence :=
  zda.parse (zda.bind (.ofFields "GP" "ZDA" [time, "04", "07", "2024"]))

/-- That day in July. -/
def dayInJuly : Date := ⟨2024, 7, 4, by decide⟩

theorem exists_receivedInJuly_eq {token : String} {α : Type} {read : zda.Sentence → Option α}
    {outcome : α} (h : (receivedInJuly token).toOption.bind read = some outcome) :
    ∃ sentence, receivedInJuly token = .ok sentence ∧ read sentence = some outcome := by
  obtain ⟨sentence, hsentence, hread⟩ := Option.bind_eq_some_iff.mp h
  refine ⟨sentence, ?_, hread⟩
  cases hreceived : receivedInJuly token with
  | error e =>
    rw [hreceived] at hsentence
    cases hsentence
  | ok other =>
    rw [hreceived] at hsentence
    rw [Option.some.inj hsentence]

/-- A quarter past eight in the evening is read, and shown by a number; of a day without one,
midnight is read. -/
theorem times_of_day_checked_inJuly :
    (∃ sentence moment, receivedInJuly "201530.5" = .ok sentence ∧
      Zda.getMoment sentence = some moment ∧
      ∃ value : Binary .double, sentence.get Zda.timeSlot = some value ∧
        value.Shows moment.time) ∧
    ∀ time : TimeOfDay, Zda.getMoment ((Zda.setMoment zda.absent ⟨dayInJuly, time⟩).set Zda.timeSlot
      (some (.ofDatum .nan))) = some ⟨dayInJuly, .midnight⟩ := by
  constructor
  · have hread : (receivedInJuly "201530.5").toOption.bind Zda.getMoment
        = some ⟨dayInJuly, 20, 15, 30, 500000000, by decide⟩ := by decide +kernel
    obtain ⟨sentence, hreceived, hmoment⟩ := exists_receivedInJuly_eq hread
    obtain ⟨-, hchecked, hmidnight⟩ := times_of_day_checked rmc.absent sentence
    refine ⟨sentence, _, hreceived, hmoment, (hchecked.mpr ?_).shown hmoment⟩
    rintro ⟨⟨value, hvalue, hnan⟩, date, hdate⟩
    have hsame := Option.some.inj (hmoment.symm.trans (hmidnight value hvalue hnan date hdate))
    exact absurd (Moment.mk.inj hsame).2 (by decide)
  · intro time
    obtain ⟨-, -, hmidnight⟩ := times_of_day_checked rmc.absent
      ((Zda.setMoment zda.absent ⟨dayInJuly, time⟩).set Zda.timeSlot (some (.ofDatum .nan)))
    exact hmidnight (.ofDatum .nan) rfl (by decide) dayInJuly
      ⟨_, _, _, rfl, rfl, rfl, rfl, rfl, rfl⟩

/-- **The word for not-a-number is read as midnight**, though it shows no time of day. -/
theorem not_a_number_read_as_midnight :
    ∃ sentence, receivedInJuly "nan" = .ok sentence ∧
      Zda.getMoment sentence = some ⟨dayInJuly, .midnight⟩ ∧
      ∀ value : Binary .double, sentence.get Zda.timeSlot = some value → ¬value.IsClock := by
  have hread : (receivedInJuly "nan").toOption.bind Zda.getMoment
      = some ⟨dayInJuly, .midnight⟩ := by decide +kernel
  have hnan : @Option.bind _ (Binary .double) (receivedInJuly "nan").toOption
      (fun sentence => sentence.get Zda.timeSlot) = some (.ofDatum .nan) := by decide +kernel
  obtain ⟨sentence, hreceived, hmoment⟩ := exists_receivedInJuly_eq hread
  obtain ⟨same, hsame, hnumber⟩ := exists_receivedInJuly_eq hnan
  obtain rfl : sentence = same := Except.ok.inj (hreceived.symm.trans hsame)
  refine ⟨sentence, hreceived, hmoment, fun value hvalue hclock => ?_⟩
  obtain rfl : value = .ofDatum .nan := Option.some.inj (hvalue.symm.trans hnumber)
  exact absurd hclock.finite (by decide +kernel)

end SentenceType

end VehicleLink
