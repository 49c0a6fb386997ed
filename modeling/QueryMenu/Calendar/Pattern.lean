import QueryMenu.Text.Basic

namespace QueryMenu.Calendar

/-! Date patterns: a text in which `%` introduces a field and the rest stands for itself.

A pattern is read into items.  Shorthands such as `%F` stand for several items.  A
padding mark (`-`, `_` or `0`) may precede a numeric field; it says how the field is
written and has no meaning for reading.
-/

inductive NumericField where
  | year
  | century
  | yearOfCentury
  | isoYear
  | isoYearOfCentury
  | quarter
  | month
  | day
  | weekFromSunday
  | weekFromMonday
  | isoWeek
  /-- Sunday is 0. -/
  | weekdayFromSunday
  /-- Monday is 1. -/
  | weekdayFromMonday
  | ordinal
  | hour
  | hourOfHalf
  | minute
  | second
  | nanosecond
  | timestamp
deriving DecidableEq, Repr

inductive Item where
  | literal (text : List Char)
  /-- Any amount of white space. -/
  | blank
  | number (field : NumericField)
  /-- A month's name; `full` also takes the long form. -/
  | monthName (full : Bool)
  | weekdayName (full : Bool)
  /-- The half of the day, `am` or `pm`. -/
  | halfDay
  /-- A point and the digits of a fraction of a second, or nothing. -/
  | fraction
  /-- As `fraction`, with exactly this many digits. -/
  | fixedFraction (digits : Nat)
  /-- Exactly this many digits of a fraction of a second, without a point. -/
  | bareFraction (digits : Nat)
  | zoneName
  /-- A distance from universal time; `lenient` also takes `Z` and hours alone. -/
  | zoneOffset (lenient : Bool)
  /-- Date, time and distance from universal time in the Internet's form. -/
  | timestampText
  | unknown
deriving DecidableEq, Repr

namespace Pattern

private def slash : Item := .literal ['/']

private def hyphen : Item := .literal ['-']

private def colon : Item := .literal [':']

def monthDayYear : List Item :=
  [.number .month, slash, .number .day, slash, .number .yearOfCentury]

def yearMonthDay : List Item :=
  [.number .year, hyphen, .number .month, hyphen, .number .day]

def hourMinute : List Item :=
  [.number .hour, colon, .number .minute]

def hourMinuteSecond : List Item :=
  hourMinute ++ [colon, .number .second]

def fieldItems : Char → Option (List Item)
  | 'A' => some [.weekdayName true]
  | 'B' => some [.monthName true]
  | 'C' => some [.number .century]
  | 'D' => some monthDayYear
  | 'F' => some yearMonthDay
  | 'G' => some [.number .isoYear]
  | 'H' => some [.number .hour]
  | 'I' => some [.number .hourOfHalf]
  | 'M' => some [.number .minute]
  | 'P' => some [.halfDay]
  | 'R' => some hourMinute
  | 'S' => some [.number .second]
  | 'T' => some hourMinuteSecond
  | 'U' => some [.number .weekFromSunday]
  | 'V' => some [.number .isoWeek]
  | 'W' => some [.number .weekFromMonday]
  | 'X' => some hourMinuteSecond
  | 'Y' => some [.number .year]
  | 'Z' => some [.zoneName]
  | 'a' => some [.weekdayName false]
  | 'b' => some [.monthName false]
  | 'c' =>
    some ([.weekdayName false, .blank, .monthName false, .blank, .number .day, .blank] ++
      hourMinuteSecond ++ [.blank, .number .year])
  | 'd' => some [.number .day]
  | 'e' => some [.number .day]
  | 'f' => some [.number .nanosecond]
  | 'g' => some [.number .isoYearOfCentury]
  | 'h' => some [.monthName false]
  | 'j' => some [.number .ordinal]
  | 'k' => some [.number .hour]
  | 'l' => some [.number .hourOfHalf]
  | 'm' => some [.number .month]
  | 'n' => some [.blank]
  | 'p' => some [.halfDay]
  | 'q' => some [.number .quarter]
  | 'r' =>
    some [.number .hourOfHalf, colon, .number .minute, colon, .number .second, .blank, .halfDay]
  | 's' => some [.number .timestamp]
  | 't' => some [.blank]
  | 'u' => some [.number .weekdayFromMonday]
  | 'v' => some [.number .day, hyphen, .monthName false, hyphen, .number .year]
  | 'w' => some [.number .weekdayFromSunday]
  | 'x' => some monthDayYear
  | 'y' => some [.number .yearOfCentury]
  | 'z' => some [.zoneOffset false]
  | '+' => some [.timestampText]
  | '%' => some [.literal ['%']]
  | _ => none

def isPaddingMark (c : Char) : Bool :=
  c = '-' || c = '0' || c = '_'

/-- Reads the field after `%`; returns its items and how many characters it takes. -/
def field : List Char → List Item × Nat
  | '#' :: 'z' :: _ => ([.zoneOffset true], 2)
  | ':' :: 'z' :: _ => ([.zoneOffset false], 2)
  | ':' :: ':' :: 'z' :: _ => ([.zoneOffset false], 3)
  | ':' :: ':' :: ':' :: 'z' :: _ => ([.zoneOffset false], 4)
  | '.' :: 'f' :: _ => ([.fraction], 2)
  | '.' :: '3' :: 'f' :: _ => ([.fixedFraction 3], 3)
  | '.' :: '6' :: 'f' :: _ => ([.fixedFraction 6], 3)
  | '.' :: '9' :: 'f' :: _ => ([.fixedFraction 9], 3)
  | '3' :: 'f' :: _ => ([.bareFraction 3], 2)
  | '6' :: 'f' :: _ => ([.bareFraction 6], 2)
  | '9' :: 'f' :: _ => ([.bareFraction 9], 2)
  | mark :: rest =>
    if isPaddingMark mark then
      match rest with
      | letter :: _ =>
        match fieldItems letter with
        | some [.number kind] => ([.number kind], 2)
        | _ => ([.unknown], 2)
      | [] => ([.unknown], 1)
    else ((fieldItems mark).getD [.unknown], 1)
  | [] => ([.unknown], 0)

def isLiteral (c : Char) : Bool :=
  c ≠ '%' && !Text.isBlank c

def items (pattern : List Char) : List Item :=
  match pattern with
  | [] => []
  | c :: rest =>
    if c = '%' then
      let (found, taken) := field rest
      found ++ items (rest.drop taken)
    else if Text.isBlank c then .blank :: items (Text.trimStart rest)
    else .literal (c :: rest.takeWhile isLiteral) :: items (rest.dropWhile isLiteral)
termination_by pattern.length
decreasing_by
  · simp only [List.length_drop, List.length_cons]
    omega
  · have := (List.dropWhile_sublist (p := Text.isBlank) (l := rest)).length_le
    simp only [Text.trimStart, List.length_cons]
    omega
  · have := (List.dropWhile_sublist (p := isLiteral) (l := rest)).length_le
    simp only [List.length_cons]
    omega

end Pattern

end QueryMenu.Calendar
