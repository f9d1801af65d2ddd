import VehicleLink.Sentence.Timestamp

/-!
# Proofs/Sentence/Date — days in sentences

A moment is read from its columns: the time of day from one, the day from the others
(`getMoment_eq_some_iff`).  The recommended minimum data have one column for the day, which keeps
two digits of the year.  So what is read from it is the day of this century with the same digits
(`Date.ofCentury`), and there always is one: a leap year is one in every century that starts with a
leap year, as this one does (`isLeapYear_ofCentury`).  Each number that is read as a day is the one
that is stored for it (`date_column_faithful`).
-/

namespace VehicleLink

/-! ## Days of this century -/

theorem isLeapYear_iff {year : Int} :
    isLeapYear year ↔ year % 4 = 0 ∧ (year % 100 ≠ 0 ∨ year % 400 = 0) := by
  simp [isLeapYear]

/-- **A leap year's two digits name a leap year in this century.** -/
theorem isLeapYear_ofCentury {year : Int} (h : isLeapYear year) :
    isLeapYear (2000 + year % 100) := by
  rw [isLeapYear_iff] at h ⊢
  omega

theorem daysInMonth_le_ofCentury (year : Int) (month : Nat) :
    daysInMonth year month ≤ daysInMonth (2000 + year % 100) month := by
  by_cases hmonth : month = 2
  · subst hmonth
    by_cases hleap : isLeapYear year
    · have hlong : daysInMonth year 2 = 29 := if_pos hleap
      have hlong' : daysInMonth (2000 + year % 100) 2 = 29 := if_pos (isLeapYear_ofCentury hleap)
      exact Nat.le_of_eq (hlong.trans hlong'.symm)
    · have hshort : daysInMonth year 2 = 28 := if_neg hleap
      rw [hshort, daysInMonth]
      split <;> decide
  · -- Only the second month looks at the year.
    refine Nat.le_of_eq ?_
    unfold daysInMonth
    split <;> first | rfl | contradiction

namespace Date

theorem eq_of_ymd {date other : Date} (hyear : date.year = other.year)
    (hmonth : date.month = other.month) (hday : date.day = other.day) : date = other := by
  obtain ⟨year, month, day, h⟩ := date
  obtain ⟨year', month', day', h'⟩ := other
  obtain rfl : year = year' := hyear
  obtain rfl : month = month' := hmonth
  obtain rfl : day = day' := hday
  rfl

/-- The day of the same month in the year of this century that ends in the same two digits. -/
def ofCentury (date : Date) : Date where
  year := 2000 + date.year % 100
  month := date.month
  day := date.day
  isDate := by
    obtain ⟨-, -, hmonth, hmonth', hday, hday'⟩ := date.isDate
    exact ⟨by omega, by omega, hmonth, hmonth', hday,
      Nat.le_trans hday' (daysInMonth_le_ofCentury date.year date.month)⟩

/-- **It is the day itself exactly if this is one of this century.** -/
theorem ofCentury_eq_iff {date : Date} :
    date.ofCentury = date ↔ 2000 ≤ date.year ∧ date.year ≤ 2099 := by
  have hyear : date.ofCentury.year = 2000 + date.year % 100 := rfl
  constructor
  · intro h
    rw [h] at hyear
    omega
  · intro h
    exact eq_of_ymd (by omega) rfl rfl

theorem ofYmd?_eq_some_iff {year : Int} {month day : Nat} {date : Date} :
    ofYmd? year month day = some date
      ↔ year = date.year ∧ month = date.month ∧ day = date.day := by
  rw [ofYmd?]
  constructor
  · intro h
    split at h
    · rw [← Option.some.inj h]
      exact ⟨rfl, rfl, rfl⟩
    · cases h
  · rintro ⟨rfl, rfl, rfl⟩
    exact dif_pos date.isDate

theorem exists_ofYmd?_iff {year : Int} {month day : Nat} :
    (∃ date, ofYmd? year month day = some date) ↔ IsDate year month day := by
  simp only [ofYmd?_eq_some_iff]
  constructor
  · rintro ⟨date, rfl, rfl, rfl⟩
    exact date.isDate
  · exact fun h => ⟨⟨year, month, day, h⟩, rfl, rfl, rfl⟩

end Date

/-! ## Two digits of the year -/

/-- Whether a number has the digits `ddmmyy` of a day of this century. -/
def IsDdmmyy (ddmmyy : Int) : Prop :=
  0 ≤ ddmmyy ∧
    IsDate (2000 + ddmmyy % 100) (ddmmyy / 100 % 100).toNat (ddmmyy / 10000).toNat

instance : DecidablePred IsDdmmyy := fun _ => inferInstanceAs (Decidable (_ ∧ _))

/-- **A number is read as a day exactly if it is the number of this day**, and the day is one of
this century. -/
theorem dateOfDdmmyy?_eq_some_iff {ddmmyy : Int} {date : Date} :
    dateOfDdmmyy? ddmmyy = some date
      ↔ ddmmyyOfDate date = ddmmyy ∧ 2000 ≤ date.year ∧ date.year ≤ 2099 := by
  have hday := date.day_le
  have hmonth := date.month_le
  rw [dateOfDdmmyy?, ddmmyyOfDate]
  split
  · next hneg =>
    refine iff_of_false (fun h => by cases h) ?_
    omega
  · next hpos =>
    rw [Date.ofYmd?_eq_some_iff]
    omega

theorem exists_dateOfDdmmyy?_iff {ddmmyy : Int} :
    (∃ date, dateOfDdmmyy? ddmmyy = some date) ↔ IsDdmmyy ddmmyy := by
  rw [dateOfDdmmyy?, IsDdmmyy]
  split
  · next hneg =>
    refine iff_of_false ?_ fun h => absurd h.1 (by omega)
    rintro ⟨date, h⟩
    cases h
  · next hpos =>
    have hyear : ((ddmmyy.toNat % 100 : Nat) : Int) + 2000 = 2000 + ddmmyy % 100 := by omega
    have hmonth : ddmmyy.toNat / 100 % 100 = (ddmmyy / 100 % 100).toNat := by omega
    have hday : ddmmyy.toNat / 10000 = (ddmmyy / 10000).toNat := by omega
    rw [Date.exists_ofYmd?_iff, hyear, hmonth, hday, and_iff_right (by omega)]

/-- **What is stored for a day is read as the day of this century.** -/
theorem dateOfDdmmyy?_ddmmyyOfDate (date : Date) :
    dateOfDdmmyy? (ddmmyyOfDate date) = some date.ofCentury := by
  rw [dateOfDdmmyy?_eq_some_iff]
  simp only [ddmmyyOfDate, Date.ofCentury]
  omega

/-! ## Moments and their columns -/

/-- Whether a column of the time has a value that is read as a time of day. -/
def ReadsTime (reading : Option (Binary .double)) (time : TimeOfDay) : Prop :=
  ∃ value, reading = some value ∧ timeOfDay? value = some time

theorem readsTime_some_iff {value : Binary .double} {time : TimeOfDay} :
    ReadsTime (some value) time ↔ timeOfDay? value = some time := by
  constructor
  · rintro ⟨other, hvalue, h⟩
    rwa [Option.some.inj hvalue]
  · exact fun h => ⟨value, rfl, h⟩

namespace SentenceType

namespace Rmc

/-- Whether the column of the date has a value that is read as a day. -/
def ReadsDate (sentence : rmc.Sentence) (date : Date) : Prop :=
  ∃ ddmmyy : IntegerType.int32.Value, sentence.get dateSlot = some ddmmyy ∧
    dateOfDdmmyy? ddmmyy.val = some date

/-- **A moment is read exactly if both its columns are.** -/
theorem getMoment_eq_some_iff {sentence : rmc.Sentence} {moment : Moment} :
    getMoment sentence = some moment
      ↔ ReadsTime (sentence.get timeSlot) moment.time ∧ ReadsDate sentence moment.date := by
  constructor
  · intro h
    obtain ⟨value, hvalue, h⟩ := Option.bind_eq_some_iff.mp h
    obtain ⟨time, htime, h⟩ := Option.bind_eq_some_iff.mp h
    obtain ⟨ddmmyy, hddmmyy, h⟩ := Option.bind_eq_some_iff.mp h
    obtain ⟨date, hdate, h⟩ := Option.bind_eq_some_iff.mp h
    obtain rfl := Option.some.inj h
    exact ⟨⟨value, hvalue, htime⟩, ddmmyy, hddmmyy, hdate⟩
  · rintro ⟨⟨value, hvalue, htime⟩, ddmmyy, hddmmyy, hdate⟩
    refine Option.bind_eq_some_iff.mpr ⟨value, hvalue, ?_⟩
    refine Option.bind_eq_some_iff.mpr ⟨moment.time, htime, ?_⟩
    refine Option.bind_eq_some_iff.mpr ⟨ddmmyy, hddmmyy, ?_⟩
    exact Option.bind_eq_some_iff.mpr ⟨moment.date, hdate, rfl⟩

theorem get_timeSlot_setMoment (sentence : rmc.Sentence) (moment : Moment) :
    (setMoment sentence moment).get timeSlot = some (ofTimeOfDay moment.time) := by
  rw [setMoment, Row.get_set_of_ne _ _ _ _ (by decide), Row.get_set]
  rfl

/-- The column of the date holds the number of the day. -/
theorem exists_get_dateSlot_setMoment (sentence : rmc.Sentence) (moment : Moment) :
    ∃ ddmmyy : IntegerType.int32.Value, (setMoment sentence moment).get dateSlot = some ddmmyy ∧
      ddmmyy.val = ddmmyyOfDate moment.date :=
  ⟨_, Row.get_set _ _ _, rfl⟩

/-- All columns but these two are left alone. -/
theorem get_setMoment (sentence : rmc.Sentence) (moment : Moment) {column : Column}
    (slot : Slot column rmc.columns) (htime : slot.index ≠ timeSlot.index)
    (hdate : slot.index ≠ dateSlot.index) :
    (setMoment sentence moment).get slot = sentence.get slot := by
  rw [setMoment, Row.get_set_of_ne _ _ _ _ hdate, Row.get_set_of_ne _ _ _ _ htime]

end Rmc

namespace Zda

/-- Whether the columns of the date have the numbers of a day. -/
def ReadsDate (sentence : zda.Sentence) (date : Date) : Prop :=
  ∃ year month day : IntegerType.int32.Value, sentence.get yearSlot = some year ∧
    sentence.get monthSlot = some month ∧ sentence.get daySlot = some day ∧
    year.val = date.year ∧ month.val = date.month ∧ day.val = date.day

/-- **A moment is read exactly if all its columns are.** -/
theorem getMoment_eq_some_iff {sentence : zda.Sentence} {moment : Moment} :
    getMoment sentence = some moment
      ↔ ReadsTime (sentence.get timeSlot) moment.time ∧ ReadsDate sentence moment.date := by
  constructor
  · intro h
    obtain ⟨value, hvalue, h⟩ := Option.bind_eq_some_iff.mp h
    obtain ⟨time, htime, h⟩ := Option.bind_eq_some_iff.mp h
    obtain ⟨year, hyear, h⟩ := Option.bind_eq_some_iff.mp h
    obtain ⟨month, hmonth, h⟩ := Option.bind_eq_some_iff.mp h
    obtain ⟨day, hday, h⟩ := Option.bind_eq_some_iff.mp h
    split at h
    · cases h
    · next hpos =>
      obtain ⟨date, hdate, h⟩ := Option.bind_eq_some_iff.mp h
      obtain rfl := Option.some.inj h
      obtain ⟨hyearEq, hmonthEq, hdayEq⟩ := Date.ofYmd?_eq_some_iff.mp hdate
      have hmonthInt : month.val = (date.month : Int) := by omega
      have hdayInt : day.val = (date.day : Int) := by omega
      exact ⟨⟨value, hvalue, htime⟩, year, month, day, hyear, hmonth, hday, hyearEq, hmonthInt,
        hdayInt⟩
  · rintro ⟨⟨value, hvalue, htime⟩, year, month, day, hyear, hmonth, hday, hyearEq, hmonthEq,
      hdayEq⟩
    have hdate : Date.ofYmd? year.val month.val.toNat day.val.toNat = some moment.date :=
      Date.ofYmd?_eq_some_iff.mpr ⟨hyearEq, by omega, by omega⟩
    refine Option.bind_eq_some_iff.mpr ⟨value, hvalue, ?_⟩
    refine Option.bind_eq_some_iff.mpr ⟨moment.time, htime, ?_⟩
    refine Option.bind_eq_some_iff.mpr ⟨year, hyear, ?_⟩
    refine Option.bind_eq_some_iff.mpr ⟨month, hmonth, ?_⟩
    refine Option.bind_eq_some_iff.mpr ⟨day, hday, ?_⟩
    rw [if_neg (by omega)]
    exact Option.bind_eq_some_iff.mpr ⟨moment.date, hdate, rfl⟩

theorem get_timeSlot_setMoment (sentence : zda.Sentence) (moment : Moment) :
    (setMoment sentence moment).get timeSlot = some (ofTimeOfDay moment.time) := by
  rw [setMoment, Row.get_set_of_ne _ _ _ _ (by decide), Row.get_set_of_ne _ _ _ _ (by decide),
    Row.get_set_of_ne _ _ _ _ (by decide), Row.get_set]
  rfl

/-- The columns of the date hold the numbers of the day. -/
theorem readsDate_setMoment (sentence : zda.Sentence) (moment : Moment) :
    ReadsDate (setMoment sentence moment) moment.date :=
  have hmonth := (Row.get_set_of_ne _ yearSlot _ monthSlot (by decide)).trans (Row.get_set _ _ _)
  have hday := (Row.get_set_of_ne _ yearSlot _ daySlot (by decide)).trans
    ((Row.get_set_of_ne _ monthSlot _ daySlot (by decide)).trans (Row.get_set _ _ _))
  ⟨_, _, _, Row.get_set _ _ _, hmonth, hday, rfl, rfl, rfl⟩

/-- All columns but these four are left alone. -/
theorem get_setMoment (sentence : zda.Sentence) (moment : Moment) {column : Column}
    (slot : Slot column zda.columns) (htime : slot.index ≠ timeSlot.index)
    (hday : slot.index ≠ daySlot.index) (hmonth : slot.index ≠ monthSlot.index)
    (hyear : slot.index ≠ yearSlot.index) :
    (setMoment sentence moment).get slot = sentence.get slot := by
  rw [setMoment, Row.get_set_of_ne _ _ _ _ hyear, Row.get_set_of_ne _ _ _ _ hmonth,
    Row.get_set_of_ne _ _ _ _ hday, Row.get_set_of_ne _ _ _ _ htime]

end Zda

namespace Rmc

variable {sentence received : rmc.Sentence}

/-- What the column of the date holds decides alone which day is read. -/
theorem readsDate_iff {ddmmyy : IntegerType.int32.Value}
    (h : received.get dateSlot = some ddmmyy) {date : Date} :
    ReadsDate received date ↔ dateOfDdmmyy? ddmmyy.val = some date := by
  constructor
  · rintro ⟨ddmmyy', h', hdate⟩
    rwa [← Option.some.inj (h'.symm.trans h)]
  · exact fun hdate => ⟨ddmmyy, h, hdate⟩

/-- **A day that was stored is read as the day of this century.** -/
theorem readsDate_of_get_dateSlot_eq {moment : Moment}
    (h : received.get dateSlot = (setMoment sentence moment).get dateSlot) :
    ReadsDate received moment.date.ofCentury := by
  obtain ⟨ddmmyy, hstored, hddmmyy⟩ := exists_get_dateSlot_setMoment sentence moment
  rw [readsDate_iff (h.trans hstored), hddmmyy, dateOfDdmmyy?_ddmmyyOfDate]

/-- **The column of the date is a faithful code of days.**

A day that is stored is read as a day again, whatever sentence its number gets into, if the time of
day of this can be read: it is the same day of the same month, in the year of this century with the
same two digits, and the day itself exactly if this is a day of this century.

A number that is read as a day is the number that is stored for this day.  All numbers that have the
digits of a day are read as one, and no other number is. -/
theorem date_column_faithful :
    (∀ (sentence received : rmc.Sentence) (moment : Moment) (time : TimeOfDay),
      received.get dateSlot = (setMoment sentence moment).get dateSlot →
        ReadsTime (received.get timeSlot) time →
          ∃ date : Date, getMoment received = some ⟨date, time⟩ ∧
            date.day = moment.date.day ∧ date.month = moment.date.month ∧
            date.year = 2000 + moment.date.year % 100 ∧
            (date = moment.date ↔ 2000 ≤ moment.date.year ∧ moment.date.year ≤ 2099)) ∧
    ∀ (received : rmc.Sentence) (ddmmyy : IntegerType.int32.Value),
      received.get dateSlot = some ddmmyy →
        (∀ moment, getMoment received = some moment →
          ∀ (sentence : rmc.Sentence) (time : TimeOfDay),
            (setMoment sentence ⟨moment.date, time⟩).get dateSlot = some ddmmyy) ∧
        ((getMoment received).isSome
          ↔ (∃ time, ReadsTime (received.get timeSlot) time) ∧ IsDdmmyy ddmmyy.val) := by
  refine ⟨fun sentence received moment time hstored htime => ?_, fun received ddmmyy hget =>
    ⟨fun moment hread sentence time => ?_, ?_⟩⟩
  · exact ⟨moment.date.ofCentury,
      getMoment_eq_some_iff.mpr ⟨htime, readsDate_of_get_dateSlot_eq hstored⟩, rfl, rfl, rfl,
      Date.ofCentury_eq_iff⟩
  · obtain ⟨stored, hstored, hvalue⟩ := exists_get_dateSlot_setMoment sentence ⟨moment.date, time⟩
    have hdate := (readsDate_iff hget).mp (getMoment_eq_some_iff.mp hread).2
    have hsame : stored = ddmmyy :=
      Subtype.ext (hvalue.trans (dateOfDdmmyy?_eq_some_iff.mp hdate).1)
    rw [hstored, hsame]
  · have hdate : IsDdmmyy ddmmyy.val ↔ ∃ date, ReadsDate received date := by
      simp only [readsDate_iff hget]
      exact exists_dateOfDdmmyy?_iff.symm
    rw [hdate, Option.isSome_iff_exists]
    constructor
    · rintro ⟨moment, hread⟩
      obtain ⟨htime, hdate⟩ := getMoment_eq_some_iff.mp hread
      exact ⟨⟨_, htime⟩, _, hdate⟩
    · rintro ⟨⟨time, htime⟩, date, hdate⟩
      exact ⟨⟨date, time⟩, getMoment_eq_some_iff.mpr ⟨htime, hdate⟩⟩

/-- Noon of a leap day long ago. -/
def leapDay : Moment := ⟨⟨-400, 2, 29, by decide⟩, ⟨12, 0, 0, 0, by decide⟩⟩

/-- The leap day is read as one of this century, which has the same number.  The number of a leap day
in a common year is refused. -/
theorem date_column_faithful_leapDay :
    let sentence := setMoment rmc.absent leapDay
    let refused := sentence.set dateSlot (some (columnInteger 290201 (by decide)))
    ReadsTime (sentence.get timeSlot) leapDay.time ∧
      ReadsTime (refused.get timeSlot) leapDay.time ∧
      (∃ date : Date, getMoment sentence = some ⟨date, leapDay.time⟩ ∧ date.day = 29 ∧
        date.month = 2 ∧ date.year = 2000 ∧ date ≠ leapDay.date ∧
        (setMoment rmc.absent ⟨date, leapDay.time⟩).get dateSlot = sentence.get dateSlot) ∧
      (getMoment refused).isSome = false := by
  intro sentence refused
  have htime : ReadsTime (sentence.get timeSlot) leapDay.time := ⟨_, rfl, by decide +kernel⟩
  have htime' : ReadsTime (refused.get timeSlot) leapDay.time := ⟨_, rfl, by decide +kernel⟩
  obtain ⟨hstored, hread⟩ := date_column_faithful
  obtain ⟨date, hdate, hday, hmonth, hyear, hsame⟩ :=
    hstored rmc.absent sentence leapDay leapDay.time rfl htime
  obtain ⟨ddmmyy, hddmmyy, -⟩ := exists_get_dateSlot_setMoment rmc.absent leapDay
  obtain ⟨hagain, -⟩ := hread sentence ddmmyy hddmmyy
  obtain ⟨-, hrefused⟩ := hread refused _ (Row.get_set _ _ _)
  refine ⟨htime, htime', ⟨date, hdate, hday, hmonth, hyear, ?_, ?_⟩, ?_⟩
  · rw [ne_eq, hsame]
    decide
  · rw [hagain _ hdate, hddmmyy]
  · rw [Bool.eq_false_iff, ne_eq, hrefused]
    exact fun h => absurd h.2 (by decide)

end Rmc

end SentenceType

end VehicleLink
