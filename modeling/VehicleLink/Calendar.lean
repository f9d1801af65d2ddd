/-!
# Calendar — dates and times of day

A `Date` is a day of the Gregorian calendar, extended backwards and forwards to every year from
-262143 to 262142. A `TimeOfDay` has nanoseconds, and in second 59 it may run one second over, for
leap seconds. Both carry the proof that they exist, so `Date.ofYmd?` and `TimeOfDay.ofHms?` are the
only places where a combination of numbers is refused.
-/

namespace VehicleLink

/-- Every fourth year, but of the centuries only every fourth. -/
def isLeapYear (year : Int) : Bool := year % 4 = 0 && (year % 100 ≠ 0 || year % 400 = 0)

/-- The length of a month, and zero for a number that names no month. -/
def daysInMonth (year : Int) : (month : Nat) → Nat
  | 2 => if isLeapYear year then 29 else 28
  | 4 | 6 | 9 | 11 => 30
  | 1 | 3 | 5 | 7 | 8 | 10 | 12 => 31
  | _ => 0

theorem daysInMonth_le (year : Int) (month : Nat) : daysInMonth year month ≤ 31 := by
  unfold daysInMonth
  split
  · split <;> decide
  all_goals decide

/-- Whether a year, a month and a day name a day of the calendar. -/
def IsDate (year : Int) (month day : Nat) : Prop :=
  -262143 ≤ year ∧ year ≤ 262142 ∧ 1 ≤ month ∧ month ≤ 12 ∧ 1 ≤ day ∧ day ≤ daysInMonth year month

instance (year : Int) (month day : Nat) : Decidable (IsDate year month day) :=
  inferInstanceAs (Decidable (_ ∧ _))

/-- A day of the calendar. -/
structure Date where
  year : Int
  month : Nat
  day : Nat
  isDate : IsDate year month day
deriving DecidableEq

namespace Date

/-- The day that the numbers name, if there is one. -/
def ofYmd? (year : Int) (month day : Nat) : Option Date :=
  if h : IsDate year month day then some ⟨year, month, day, h⟩ else none

theorem day_le (date : Date) : date.day ≤ 31 :=
  Nat.le_trans date.isDate.2.2.2.2.2 (daysInMonth_le _ _)

theorem month_le (date : Date) : date.month ≤ 12 := date.isDate.2.2.2.1

end Date

/-- Whether an hour, a minute, a second and nanoseconds name a time of day. -/
def IsTimeOfDay (hour minute second nanosecond : Nat) : Prop :=
  hour < 24 ∧ minute < 60 ∧ second < 60 ∧ nanosecond < 2000000000 ∧
    (nanosecond < 1000000000 ∨ second = 59)

instance (hour minute second nanosecond : Nat) :
    Decidable (IsTimeOfDay hour minute second nanosecond) :=
  inferInstanceAs (Decidable (_ ∧ _))

/-- A time of day, in nanoseconds. -/
structure TimeOfDay where
  hour : Nat
  minute : Nat
  second : Nat
  nanosecond : Nat
  isTimeOfDay : IsTimeOfDay hour minute second nanosecond
deriving DecidableEq

/-- The time of day that the numbers name, if there is one. -/
def TimeOfDay.ofHms? (hour minute second nanosecond : Nat) : Option TimeOfDay :=
  if h : IsTimeOfDay hour minute second nanosecond then
    some ⟨hour, minute, second, nanosecond, h⟩
  else none

/-- A date and a time of day. -/
structure Moment where
  date : Date
  time : TimeOfDay
deriving DecidableEq

end VehicleLink
