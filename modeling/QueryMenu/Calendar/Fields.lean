import QueryMenu.Calendar.Date
import QueryMenu.Calendar.Pattern

namespace QueryMenu.Calendar

/-! What a text says about a date, field by field, and the date that it determines.

A field that is given twice must be given alike.  A date is found from the first of
five groups of fields that is complete, and every other field must then agree with it.
-/

inductive DateError where
  | outOfRange
  | impossible
  | notEnough
  | invalid
  | tooShort
  | trailing
  | badPattern
  /-- The day lies in the year before the least one that a word holds. -/
  | yearUnderflow
deriving DecidableEq, Repr

def DateError.message : DateError → String
  | .outOfRange => "input is out of range"
  | .impossible => "no possible date and time matching input"
  | .notEnough => "input is not enough for unique date and time"
  | .invalid => "input contains invalid characters"
  | .tooShort => "premature end of input"
  | .trailing => "trailing input"
  | .badPattern => "bad or unsupported format string"
  | .yearUnderflow => "attempt to subtract with overflow"

structure Fields where
  year : Option Int := none
  century : Option Int := none
  yearOfCentury : Option Int := none
  isoYear : Option Int := none
  isoYearOfCentury : Option Int := none
  quarter : Option Nat := none
  month : Option Nat := none
  day : Option Nat := none
  weekFromSunday : Option Nat := none
  weekFromMonday : Option Nat := none
  isoWeek : Option Nat := none
  weekday : Option Weekday := none
  ordinal : Option Nat := none
  /-- The second half of the day. -/
  afternoon : Option Bool := none
  hourOfHalf : Option Nat := none
  minute : Option Nat := none
  second : Option Nat := none
  nanosecond : Option Nat := none
  timestamp : Option Int := none
  /-- Seconds ahead of universal time. -/
  offset : Option Int := none
deriving DecidableEq, Repr

namespace Fields

/-- A field takes its first value and accepts only that value again. -/
def agree {α : Type} [DecidableEq α] (known : Option α) (value : α) :
    Except DateError (Option α) :=
  match known with
  | none => .ok (some value)
  | some old => if old = value then .ok (some value) else .error .impossible

/-- The value as a natural number, if it lies between the bounds. -/
def within (low high : Nat) (value : Int) : Except DateError Nat :=
  if low ≤ value ∧ value ≤ high then .ok value.toNat else .error .outOfRange

def leastWordYear : Int := -2147483648

def greatestWordYear : Int := 2147483647

/-- A year fits a signed word of 32 bits. -/
def wordYear (value : Int) : Except DateError Int :=
  if leastWordYear ≤ value ∧ value ≤ greatestWordYear then .ok value else .error .outOfRange

def withWeekday (fields : Fields) (weekday : Weekday) : Except DateError Fields := do
  return { fields with weekday := ← agree fields.weekday weekday }

def withMonth (fields : Fields) (month : Nat) : Except DateError Fields := do
  return { fields with month := ← agree fields.month month }

def withAfternoon (fields : Fields) (afternoon : Bool) : Except DateError Fields := do
  return { fields with afternoon := ← agree fields.afternoon afternoon }

def withHourOfHalf (fields : Fields) (hour : Nat) : Except DateError Fields := do
  return { fields with hourOfHalf := ← agree fields.hourOfHalf hour }

def withNanosecond (fields : Fields) (value : Nat) : Except DateError Fields := do
  return { fields with nanosecond := ← agree fields.nanosecond value }

def withOffset (fields : Fields) (seconds : Int) : Except DateError Fields := do
  return { fields with offset := ← agree fields.offset seconds }

def withNumber (fields : Fields) (field : NumericField) (value : Int) :
    Except DateError Fields :=
  match field with
  | .year => do return { fields with year := ← agree fields.year (← wordYear value) }
  | .century => do
    return { fields with century := ← agree fields.century (← within 0 2147483647 value : Nat) }
  | .yearOfCentury => do
    return { fields with
      yearOfCentury := ← agree fields.yearOfCentury (← within 0 99 value : Nat) }
  | .isoYear => do return { fields with isoYear := ← agree fields.isoYear (← wordYear value) }
  | .isoYearOfCentury => do
    return { fields with
      isoYearOfCentury := ← agree fields.isoYearOfCentury (← within 0 99 value : Nat) }
  | .quarter => do return { fields with quarter := ← agree fields.quarter (← within 1 4 value) }
  | .month => do fields.withMonth (← within 1 12 value)
  | .day => do return { fields with day := ← agree fields.day (← within 1 31 value) }
  | .weekFromSunday => do
    return { fields with weekFromSunday := ← agree fields.weekFromSunday (← within 0 53 value) }
  | .weekFromMonday => do
    return { fields with weekFromMonday := ← agree fields.weekFromMonday (← within 0 53 value) }
  | .isoWeek => do return { fields with isoWeek := ← agree fields.isoWeek (← within 1 53 value) }
  | .weekdayFromSunday => do fields.withWeekday (.ofIndex ((← within 0 6 value) + 6))
  | .weekdayFromMonday => do fields.withWeekday (.ofIndex ((← within 1 7 value) + 6))
  | .ordinal => do return { fields with ordinal := ← agree fields.ordinal (← within 1 366 value) }
  | .hour => do
    let hour ← within 0 23 value
    (← fields.withAfternoon (12 ≤ hour)).withHourOfHalf (hour % 12)
  | .hourOfHalf => do fields.withHourOfHalf ((← within 1 12 value) % 12)
  | .minute => do return { fields with minute := ← agree fields.minute (← within 0 59 value) }
  | .second => do return { fields with second := ← agree fields.second (← within 0 60 value) }
  | .nanosecond => do fields.withNanosecond (← within 0 999999999 value)
  | .timestamp => do return { fields with timestamp := ← agree fields.timestamp value }

/-- A year from its full number, its century and its place in the century.  Alone, a
place below 70 lies in the 21st century and a higher one in the 20th. -/
def resolveYear (year century yearOfCentury : Option Int) : Except DateError (Option Int) :=
  match year, century, yearOfCentury with
  | year, none, none => .ok year
  | some year, century, yearOfCentury =>
    if year < 0 then .error .impossible
    else if century.getD (year / 100) = year / 100 ∧
        yearOfCentury.getD (year % 100) = year % 100 then .ok (some year)
    else .error .impossible
  | none, some century, some place => .ok (some (century * 100 + place))
  | none, none, some place => .ok (some (place + if place < 70 then 2000 else 1900))
  | none, some _, none => .error .notEnough

/-- An unset field agrees with everything. -/
def allows {α : Type} [DecidableEq α] (field : Option α) (value : α) : Bool :=
  field.all fun given => given = value

/-- Year, month and day agree with the date.  A year before 0 has no century. -/
def agreesByMonth (fields : Fields) (date : Date) : Bool :=
  allows fields.year date.year &&
    (0 ≤ date.year || (fields.century.isNone && fields.yearOfCentury.isNone)) &&
    allows fields.century (date.year / 100) &&
    allows fields.yearOfCentury (date.year % 100) &&
    allows fields.month date.month && allows fields.day date.day

def agreesByIsoWeek (fields : Fields) (date : Date) : Bool :=
  let (year, week) := date.isoWeek
  allows fields.isoYear year &&
    (0 ≤ year || fields.isoYearOfCentury.isNone) &&
    allows fields.isoYearOfCentury (year % 100) &&
    allows fields.isoWeek week && allows fields.weekday date.weekday

def agreesByOrdinal (fields : Fields) (date : Date) : Bool :=
  allows fields.ordinal date.ordinal &&
    allows fields.weekFromSunday (date.weekFrom .sunday) &&
    allows fields.weekFromMonday (date.weekFrom .monday)

/-- The day of a week counted from the first `start` of the year. -/
def dayOfWeek (year : Int) (week : Nat) (weekday start : Weekday) : Except DateError Date := do
  let newYear ← (Date.ofOrdinal? year 1).elim (.error .outOfRange) .ok
  let firstWeek : Int := 1 + start.daysSince newYear.weekday
  let ordinal := firstWeek + (week - 1) * 7 + weekday.daysSince start
  if ordinal ≤ 0 then .error .impossible
  else (Date.ofOrdinal? year ordinal.toNat).elim (.error .impossible) .ok

/-- The day of an ISO week.  The year before that of the week must fit a word if the week
reaches into it. -/
def dayOfIsoWeek (year : Int) (week : Nat) (weekday : Weekday) : Except DateError Date :=
  if year = leastWordYear ∧ isoOrdinal year week weekday < 1 then .error .yearUnderflow
  else (Date.ofIsoWeek? year week weekday).elim (.error .outOfRange) .ok

/-- A date found from one group of fields, if the other fields agree with it. -/
def confirm (fields : Fields) (date : Date) (agrees : Bool) : Except DateError Date :=
  if agrees && allows fields.quarter date.quarter then .ok date else .error .impossible

def date (fields : Fields) : Except DateError Date := do
  let year ← resolveYear fields.year fields.century fields.yearOfCentury
  let isoYear ← resolveYear fields.isoYear none fields.isoYearOfCentury
  match year, fields.month, fields.day with
  | some year, some month, some day =>
    let date ← (Date.ofYearMonthDay? year month day).elim (.error .outOfRange) .ok
    fields.confirm date (fields.agreesByIsoWeek date && fields.agreesByOrdinal date)
  | _, _, _ =>
  match year, fields.ordinal with
  | some year, some ordinal =>
    let date ← (Date.ofOrdinal? year ordinal).elim (.error .outOfRange) .ok
    fields.confirm date
      (fields.agreesByMonth date && fields.agreesByIsoWeek date && fields.agreesByOrdinal date)
  | _, _ =>
  match year, fields.weekFromSunday, fields.weekday with
  | some year, some week, some weekday =>
    let date ← dayOfWeek year week weekday .sunday
    fields.confirm date
      (fields.agreesByMonth date && fields.agreesByIsoWeek date && fields.agreesByOrdinal date)
  | _, _, _ =>
  match year, fields.weekFromMonday, fields.weekday with
  | some year, some week, some weekday =>
    let date ← dayOfWeek year week weekday .monday
    fields.confirm date
      (fields.agreesByMonth date && fields.agreesByIsoWeek date && fields.agreesByOrdinal date)
  | _, _, _ =>
  match isoYear, fields.isoWeek, fields.weekday with
  | some isoYear, some week, some weekday =>
    let date ← dayOfIsoWeek isoYear week weekday
    fields.confirm date (fields.agreesByMonth date && fields.agreesByOrdinal date)
  | _, _, _ => .error .notEnough

end Fields

end QueryMenu.Calendar
