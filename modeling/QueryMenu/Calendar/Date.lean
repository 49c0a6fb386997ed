namespace QueryMenu.Calendar

/-! Days of the Gregorian calendar, extended to all years.

Years are counted astronomically: year 0 precedes year 1.  Besides year, month and
day, a date can be named by its place in the year and by its ISO week.
-/

inductive Weekday where
  | monday
  | tuesday
  | wednesday
  | thursday
  | friday
  | saturday
  | sunday
deriving DecidableEq, Repr

namespace Weekday

/-- Days since Monday. -/
def index : Weekday → Nat
  | .monday => 0
  | .tuesday => 1
  | .wednesday => 2
  | .thursday => 3
  | .friday => 4
  | .saturday => 5
  | .sunday => 6

/-- The weekday some days after a Monday. -/
def ofIndex (days : Nat) : Weekday :=
  match days % 7 with
  | 0 => .monday
  | 1 => .tuesday
  | 2 => .wednesday
  | 3 => .thursday
  | 4 => .friday
  | 5 => .saturday
  | _ => .sunday

/-- Days from the last `start` up to the weekday, itself included as zero. -/
def daysSince (weekday start : Weekday) : Nat :=
  (weekday.index + 7 - start.index) % 7

end Weekday

def isLeap (year : Int) : Bool :=
  year % 4 = 0 && (year % 100 ≠ 0 || year % 400 = 0)

def daysInYear (year : Int) : Nat :=
  if isLeap year then 366 else 365

def daysInMonth (year : Int) (month : Nat) : Nat :=
  if month = 2 then (if isLeap year then 29 else 28)
  else if month = 4 ∨ month = 6 ∨ month = 9 ∨ month = 11 then 30
  else 31

/-- Days of the year before the first of a month. -/
def daysBefore (year : Int) (month : Nat) : Nat :=
  ((List.range' 1 (month - 1)).map (daysInMonth year)).foldr (· + ·) 0

def firstYear : Int := -262143

def lastYear : Int := 262142

/-- The day exists, and its year is one that dates are kept for. -/
def Exists (year : Int) (month day : Nat) : Prop :=
  (firstYear ≤ year ∧ year ≤ lastYear) ∧ (1 ≤ month ∧ month ≤ 12) ∧
    1 ≤ day ∧ day ≤ daysInMonth year month

instance (year : Int) (month day : Nat) : Decidable (Exists year month day) :=
  inferInstanceAs (Decidable (_ ∧ _))

structure Date where
  year : Int
  month : Nat
  day : Nat
  exists_ : Exists year month day
deriving DecidableEq

namespace Date

def ofYearMonthDay? (year : Int) (month day : Nat) : Option Date :=
  if present : Exists year month day then some ⟨year, month, day, present⟩ else none

/-- The month and day of a place in the year, searched from `month` on in `left` months. -/
def splitOrdinal (year : Int) : (left month ordinal : Nat) → Nat × Nat
  | 0, month, ordinal => (month, ordinal)
  | left + 1, month, ordinal =>
    if ordinal ≤ daysInMonth year month then (month, ordinal)
    else splitOrdinal year left (month + 1) (ordinal - daysInMonth year month)

/-- The day at a place in the year; the first of January is at place 1. -/
def ofOrdinal? (year : Int) (ordinal : Nat) : Option Date :=
  let (month, day) := splitOrdinal year 12 1 ordinal
  ofYearMonthDay? year month day

def ordinal (date : Date) : Nat :=
  daysBefore date.year date.month + date.day

end Date

/-- The weekday at a place in a year, also for places outside it. -/
def weekdayAt (year ordinal : Int) : Weekday :=
  let before := year - 1
  let days := 365 * before + before / 4 - before / 100 + before / 400 + ordinal - 1
  Weekday.ofIndex (days % 7).toNat

def Date.weekday (date : Date) : Weekday :=
  weekdayAt date.year date.ordinal

def Date.quarter (date : Date) : Nat :=
  (date.month + 2) / 3

/-- The week of the year if weeks start on `start` and the days before the first such
weekday form week 0. -/
def Date.weekFrom (date : Date) (start : Weekday) : Nat :=
  (date.ordinal + 6 - date.weekday.daysSince start) / 7

/-- The number of ISO weeks: a year has 53 if it starts or ends on a Thursday. -/
def isoWeeksInYear (year : Int) : Nat :=
  if weekdayAt year 1 = .thursday ∨ weekdayAt year (daysInYear year) = .thursday then 53 else 52

/-- The ISO year and week of a date: a week belongs to the year of its Thursday. -/
def Date.isoWeek (date : Date) : Int × Nat :=
  let week := (date.ordinal + 9 - date.weekday.index) / 7
  if week = 0 then (date.year - 1, isoWeeksInYear (date.year - 1))
  else if isoWeeksInYear date.year < week then (date.year + 1, 1)
  else (date.year, week)

/-- The place of a day of an ISO week in the year of that week.  The first and the last week
may reach into the years beside it. -/
def isoOrdinal (year : Int) (week : Nat) (weekday : Weekday) : Int :=
  7 * week + weekday.index - 3 - (weekdayAt year 4).index

def Date.ofIsoWeek? (year : Int) (week : Nat) (weekday : Weekday) : Option Date :=
  if week = 0 ∨ isoWeeksInYear year < week then none
  else
    let ordinal := isoOrdinal year week weekday
    if ordinal < 1 then
      Date.ofOrdinal? (year - 1) (ordinal + daysInYear (year - 1)).toNat
    else if daysInYear year < ordinal then
      Date.ofOrdinal? (year + 1) (ordinal - daysInYear year).toNat
    else Date.ofOrdinal? year ordinal.toNat

/-- A number in decimal with leading zeros up to the given width. -/
def padded (width number : Nat) : String :=
  let digits := toString number
  String.ofList (List.replicate (width - digits.length) '0') ++ digits

/-- Year, month and day joined by hyphens.  Years of more or fewer than four digits
carry their sign. -/
def Date.text (date : Date) : String :=
  let year :=
    if 0 ≤ date.year ∧ date.year ≤ 9999 then padded 4 date.year.toNat
    else (if date.year < 0 then "-" else "+") ++ padded 4 date.year.natAbs
  "-".intercalate [year, padded 2 date.month, padded 2 date.day]

end QueryMenu.Calendar
