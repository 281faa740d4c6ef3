/-!
# Days of the calendar

A date is a day of the Gregorian calendar in the years 1 to 9999; the type holds no other. Days are
also counted from the first day of year 1, which was a Monday, and named by their week: the first
week of a year is the one that holds its first Thursday.
-/

namespace EntityQuery
namespace Calendar

/-- Whether the year has a 29th of February. -/
def isLeap (year : Nat) : Bool := year % 4 == 0 && (year % 100 != 0 || year % 400 == 0)

/-- The number of days of a month, none for a number that is no month. -/
def daysInMonth (year month : Nat) : Nat :=
  if month = 2 then (if isLeap year then 29 else 28)
  else if month = 4 ∨ month = 6 ∨ month = 9 ∨ month = 11 then 30
  else if 1 ≤ month ∧ month ≤ 12 then 31
  else 0

/-- The number of days of a year. -/
def daysInYear (year : Nat) : Nat := if isLeap year then 366 else 365

/-- Why three numbers are no date; the first part that is out of its range counts. -/
inductive DateFault where
  | year (year : Nat)
  | month
  | day
deriving DecidableEq, Repr

/-- The wording of a fault. -/
def DateFault.message : DateFault → String
  | .year y => "year " ++ y.repr ++ " is out of range"
  | .month => "month must be in 1..12"
  | .day => "day is out of range for month"

/-- Whether three numbers name a day of the calendar. -/
def IsDate (year month day : Nat) : Prop :=
  (1 ≤ year ∧ year ≤ 9999) ∧ (1 ≤ month ∧ month ≤ 12) ∧ (1 ≤ day ∧ day ≤ daysInMonth year month)

instance (y m d : Nat) : Decidable (IsDate y m d) := by unfold IsDate; infer_instance

/-- A day of the calendar. -/
structure Date where
  year : Nat
  month : Nat
  day : Nat
  isDate : IsDate year month day
deriving DecidableEq

/-- The first day of the calendar. -/
instance : Inhabited Date := ⟨⟨1, 1, 1, by decide⟩⟩

/-- The date of three numbers. -/
def Date.ofParts (year month day : Nat) : Except DateFault Date :=
  if hy : 1 ≤ year ∧ year ≤ 9999 then
    if hm : 1 ≤ month ∧ month ≤ 12 then
      if hd : 1 ≤ day ∧ day ≤ daysInMonth year month then .ok ⟨year, month, day, hy, hm, hd⟩
      else .error .day
    else .error .month
  else .error (.year year)

/-- **A date is built from its parts.** -/
@[simp] theorem Date.ofParts_self (d : Date) : Date.ofParts d.year d.month d.day = .ok d := by
  simp [Date.ofParts, d.isDate.1, d.isDate.2.1, d.isDate.2.2]

/-- The number of days before the first of January of a year. -/
def daysBeforeYear (year : Nat) : Nat :=
  let y := year - 1
  y * 365 + y / 4 - y / 100 + y / 400

/-- The number of days of a year before the first of a month. -/
def daysBeforeMonth (year month : Nat) : Nat :=
  (List.range (month - 1)).foldl (fun days m => days + daysInMonth year (m + 1)) 0

/-- The number of days from the first day of the calendar. -/
def Date.ordinal (d : Date) : Nat :=
  daysBeforeYear d.year + daysBeforeMonth d.year d.month + (d.day - 1)

/-- The month and the day of the month at a distance from the first of a month. -/
def monthAndDay (year : Nat) : (months : Nat) → (month distance : Nat) → Nat × Nat
  | 0, month, distance => (month, distance + 1)
  | months + 1, month, distance =>
    if distance < daysInMonth year month then (month, distance + 1)
    else monthAndDay year months (month + 1) (distance - daysInMonth year month)

/-- The day of the week of the first of January, counted from Monday. -/
def firstWeekday (year : Nat) : Nat := daysBeforeYear year % 7

/-- Whether the year has that week: 52 weeks, and a 53rd if the year begins on a Thursday, or on a
Wednesday and is a leap year. -/
def hasWeek (year week : Nat) : Bool :=
  (1 ≤ week && week ≤ 52) ||
    (week == 53 && 1 ≤ year &&
      (firstWeekday year == 3 || (firstWeekday year == 2 && isLeap year)))

/-- The year, month and day of a day of a week, none for a week that the year does not have or a
day of the week outside 1 to 7. A week at an end of a year reaches into its neighbour. The weeks of
the year 0 lie before the first month of the calendar. -/
def ofWeek? (year week weekday : Nat) : Option (Nat × Nat × Nat) :=
  if hasWeek year week && (1 ≤ weekday && weekday ≤ 7) then
    if year = 0 then some (1, 0, 1)
    else
      let first := firstWeekday year
      let monday : Int := if first ≤ 3 then -(first : Int) else 7 - (first : Int)
      let distance := monday + 7 * (week - 1 : Nat) + (weekday - 1 : Nat)
      if distance < 0 then some (year - 1, 12, (32 + distance).toNat)
      else if daysInYear year ≤ distance.toNat then
        some (year + 1, 1, distance.toNat - daysInYear year + 1)
      else
        let md := monthAndDay year 11 1 distance.toNat
        some (year, md.1, md.2)
  else none

example : ofWeek? 2018 5 3 = some (2018, 1, 31) ∧ ofWeek? 2020 53 7 = some (2021, 1, 3) ∧
    ofWeek? 2009 1 1 = some (2008, 12, 29) ∧ ofWeek? 2018 53 1 = none := by decide

/-- A number in at least that many decimal digits. -/
def padded (width n : Nat) : List Char :=
  let ds := Nat.toDigits 10 n
  List.replicate (width - ds.length) '0' ++ ds

/-- Year, month and day with hyphens between them, the year in four digits. -/
def Date.chars (d : Date) : List Char :=
  padded 4 d.year ++ '-' :: padded 2 d.month ++ '-' :: padded 2 d.day

/-- The text of a date. -/
def Date.text (d : Date) : String := String.ofList d.chars

end Calendar
end EntityQuery
