import VehicleLink.Calendar
import VehicleLink.Sentence.Catalogue

/-!
# Sentence/Timestamp — dates and times in sentences

The time of day is one number, `hhmmss.ss`. The recommended minimum data adds the date as one whole
number, `ddmmyy`, whose years are those from 2000 to 2099; the time and date sentence has a column
each for day, month and year.
-/

namespace VehicleLink

/-- The time of day that `hhmmss.ss` stands for, to the nearest nanosecond of its second. -/
def timeOfDay? (value : Binary .double) : Option TimeOfDay :=
  if value.isBelowZero then none
  else
    let whole (x : Binary .double) : Int :=
      x.truncate IntegerType.uint32.least IntegerType.uint32.greatest
    let seconds := value % .ofInt 100
    let fraction := seconds - .ofInt (whole seconds)
    let nanoseconds := whole (fraction * .ofInt 1000000000 + .ofRat (1 / 2))
    TimeOfDay.ofHms? (whole (value / .ofInt 10000)).toNat
      (whole (value % .ofInt 10000 / .ofInt 100)).toNat (whole seconds).toNat
      (min nanoseconds 999999999).toNat

/-- The number `hhmmss.ss` of a time of day. A leap second counts past its minute. -/
def ofTimeOfDay (time : TimeOfDay) : Binary .double :=
  .ofInt time.hour * .ofInt 10000 + .ofInt time.minute * .ofInt 100 + .ofInt time.second
    + .ofInt time.nanosecond / .ofInt 1000000000

/-- The day that `ddmmyy` stands for. -/
def dateOfDdmmyy? (ddmmyy : Int) : Option Date :=
  if ddmmyy < 0 then none
  else
    let digits := ddmmyy.toNat
    Date.ofYmd? ((digits % 100 : Nat) + 2000) (digits / 100 % 100) (digits / 10000)

/-- The number `ddmmyy` of a day. -/
def ddmmyyOfDate (date : Date) : Int :=
  (date.day : Int) * 10000 + (date.month : Int) * 100 + date.year % 100

/-- A whole number from minus a million to a million, as a column holds it. -/
def columnInteger (i : Int) (h : -1000000 ≤ i ∧ i ≤ 1000000) : IntegerType.int32.Value :=
  ⟨i, Int.le_trans (by decide) h.1, Int.le_trans h.2 (by decide)⟩

namespace SentenceType.Rmc

/-- Where the time of day is. -/
def timeSlot : Slot .utcTime rmc.columns := .here

/-- Where the date is. -/
def dateSlot : Slot (.integer "date" 6) rmc.columns :=
  .there (.there (.there (.there (.there (.there (.there (.there .here)))))))

/-- The date and time, if the sentence has both and they exist. -/
def getMoment (sentence : rmc.Sentence) : Option Moment := do
  let value : Binary .double ← sentence.get timeSlot
  let time ← timeOfDay? value
  let ddmmyy : IntegerType.int32.Value ← sentence.get dateSlot
  let date ← dateOfDdmmyy? ddmmyy.val
  return ⟨date, time⟩

/-- The sentence with another date and time. -/
def setMoment (sentence : rmc.Sentence) (moment : Moment) : rmc.Sentence :=
  let ddmmyy := columnInteger (ddmmyyOfDate moment.date) (by
    have := moment.date.day_le
    have := moment.date.month_le
    unfold ddmmyyOfDate
    omega)
  (sentence.set timeSlot (some (ofTimeOfDay moment.time))).set dateSlot (some ddmmyy)

end SentenceType.Rmc

namespace SentenceType.Zda

/-- Where the time of day is. -/
def timeSlot : Slot .utcTime zda.columns := .here

/-- Where the day of the month is. -/
def daySlot : Slot (.integer "day" 2) zda.columns := .there .here

/-- Where the month is. -/
def monthSlot : Slot (.integer "month" 2) zda.columns := .there (.there .here)

/-- Where the year is. -/
def yearSlot : Slot (.integer "year" 4) zda.columns := .there (.there (.there .here))

/-- The date and time, if the sentence has all columns of them and they exist. -/
def getMoment (sentence : zda.Sentence) : Option Moment := do
  let value : Binary .double ← sentence.get timeSlot
  let time ← timeOfDay? value
  let year : IntegerType.int32.Value ← sentence.get yearSlot
  let month : IntegerType.int32.Value ← sentence.get monthSlot
  let day : IntegerType.int32.Value ← sentence.get daySlot
  if month.val < 0 ∨ day.val < 0 then none
  else
    let date ← Date.ofYmd? year.val month.val.toNat day.val.toNat
    return ⟨date, time⟩

/-- The sentence with another date and time. -/
def setMoment (sentence : zda.Sentence) (moment : Moment) : zda.Sentence :=
  let date := moment.date
  let day := columnInteger date.day (by have := date.day_le; omega)
  let month := columnInteger date.month (by have := date.month_le; omega)
  let year := columnInteger date.year (by have := date.isDate.1; have := date.isDate.2.1; omega)
  (((sentence.set timeSlot (some (ofTimeOfDay moment.time))).set daySlot (some day)).set monthSlot
    (some month)).set yearSlot (some year)

end SentenceType.Zda

end VehicleLink
