import QueryMenu.Calendar.Fields

namespace QueryMenu.Calendar

/-! Reading a date from a text by a pattern.

The items of the pattern are taken in order.  Each consumes the front of the text and
may set fields; the first fault ends the reading, so a pattern's unknown field is
noticed only when the text has been accepted up to it.
-/

namespace Reader

/-- The fields set so far and the text that is left. -/
abbrev Progress := Fields × List Char

/-- The length of a text in bytes of its usual encoding. -/
def byteLength (text : List Char) : Nat :=
  (text.map Char.utf8Size).foldr (· + ·) 0

def digitValue (c : Char) : Nat :=
  c.toNat - '0'.toNat

def numberOfDigits (digits : List Char) : Nat :=
  digits.foldl (fun value digit => value * 10 + digitValue digit) 0

/-- Splits a number of at least one and at most `width` digits off the text.  It must
fit a signed word of 64 bits. -/
def number (width : Option Nat) (text : List Char) : Except DateError (Nat × List Char) :=
  let digits := (match width with | some width => text.take width | none => text).takeWhile
    Char.isDigit
  if text.isEmpty then .error .tooShort
  else if digits.isEmpty then .error .invalid
  else if 9223372036854775807 < numberOfDigits digits then .error .outOfRange
  else .ok (numberOfDigits digits, text.drop digits.length)

/-- As `number`, with exactly `width` digits. -/
def exactNumber (width : Nat) (text : List Char) : Except DateError (Nat × List Char) :=
  if byteLength text < width then .error .tooShort
  else
    let digits := (text.take width).takeWhile Char.isDigit
    if digits.length < width then .error .invalid
    else .ok (numberOfDigits digits, text.drop width)

/-- How many digits a numeric field has at most, and whether it may carry a sign. -/
def widthOf : NumericField → Option Nat × Bool
  | .year => (some 4, true)
  | .isoYear => (some 4, true)
  | .century => (some 2, false)
  | .yearOfCentury => (some 2, false)
  | .isoYearOfCentury => (some 2, false)
  | .quarter => (some 1, false)
  | .month => (some 2, false)
  | .day => (some 2, false)
  | .weekFromSunday => (some 2, false)
  | .weekFromMonday => (some 2, false)
  | .isoWeek => (some 2, false)
  | .weekdayFromSunday => (some 1, false)
  | .weekdayFromMonday => (some 1, false)
  | .ordinal => (some 3, false)
  | .hour => (some 2, false)
  | .hourOfHalf => (some 2, false)
  | .minute => (some 2, false)
  | .second => (some 2, false)
  | .nanosecond => (some 9, false)
  | .timestamp => (none, false)

/-- A number with an optional sign.  A sign lifts the limit on the number of digits. -/
def signedNumber (width : Option Nat) : List Char → Except DateError (Int × List Char)
  | '-' :: rest => (number none rest).map fun (value, rest) => (-(value : Int), rest)
  | '+' :: rest => (number none rest).map fun (value, rest) => ((value : Int), rest)
  | text => (number width text).map fun (value, rest) => ((value : Int), rest)

def numericField (field : NumericField) (fields : Fields) (text : List Char) :
    Except DateError Progress := do
  let text := Text.trimStart text
  let (width, signed) := widthOf field
  let (value, rest) ←
    if signed then signedNumber width text
    else (number width text).map fun (value, rest) => ((value : Int), rest)
  return (← fields.withNumber field value, rest)

/-- Drops a word from the front of the text, whatever the case of its letters. -/
def dropWord? (word text : List Char) : Option (List Char) :=
  if (text.take word.length).map Char.toLower = word then some (text.drop word.length) else none

/-- Names by their first three letters, in order, with the rest of their long form. -/
def monthNames : List (String × String) :=
  [("jan", "uary"), ("feb", "ruary"), ("mar", "ch"), ("apr", "il"), ("may", ""), ("jun", "e"),
    ("jul", "y"), ("aug", "ust"), ("sep", "tember"), ("oct", "ober"), ("nov", "ember"),
    ("dec", "ember")]

def weekdayNames : List (String × String) :=
  [("mon", "day"), ("tue", "sday"), ("wed", "nesday"), ("thu", "rsday"), ("fri", "day"),
    ("sat", "urday"), ("sun", "day")]

/-- Reads a name of a list and returns its place.  The rest of the long form is taken
only if it is asked for and there. -/
def name (names : List (String × String)) (full : Bool) (text : List Char) :
    Except DateError (Nat × List Char) :=
  if byteLength text < 3 then .error .tooShort
  else
    match names.findIdx? fun (short, _) => (dropWord? short.toList text).isSome with
    | none => .error .invalid
    | some index =>
      let rest := text.drop 3
      let ending := (names[index]?.map fun (_, ending) => ending.toList).getD []
      .ok (index, if full then (dropWord? ending rest).getD rest else rest)

/-- The digits after the point of a fraction, as nanoseconds; digits beyond the ninth
are skipped. -/
def fractionDigits (text : List Char) : Except DateError (Nat × List Char) := do
  let (value, rest) ← number (some 9) text
  return (value * Nat.pow 10 (9 - (text.length - rest.length)), rest.dropWhile Char.isDigit)

def exactFraction (digits : Nat) (text : List Char) : Except DateError (Nat × List Char) := do
  let (value, rest) ← exactNumber digits text
  return (value * Nat.pow 10 (9 - digits), rest)

/-- The first two bytes, if both are digits. -/
def twoDigits (text : List Char) : Except DateError (Nat × Nat × List Char) :=
  if byteLength text < 2 then .error .tooShort
  else
    match text with
    | tens :: units :: rest =>
      if tens.isDigit && units.isDigit then .ok (digitValue tens, digitValue units, rest)
      else .error .invalid
    | _ => .error .invalid

def offsetMinutes (lenient : Bool) (text : List Char) : Except DateError (Nat × List Char) :=
  if byteLength text < 2 then
    if !lenient then .error .tooShort
    else if text.isEmpty then .ok (0, text)
    else .error .tooShort
  else do
    let (tens, units, rest) ← twoDigits text
    if tens < 6 then return (tens * 10 + units, rest) else .error .outOfRange

/-- A distance from universal time in seconds: a sign, two digits of hours, two of
minutes, with colons or white space between.  `zulu` also takes the letter `Z`. -/
def offset (zulu lenient : Bool) (text : List Char) : Except DateError (Int × List Char) :=
  match text with
  | [] => .error .tooShort
  | mark :: rest =>
    if zulu && (mark = 'Z' || mark = 'z') then .ok (0, rest)
    else if mark = '+' ∨ mark = '-' ∨ mark = '−' then do
      let (tens, units, rest) ← twoDigits rest
      let rest := rest.dropWhile fun c => c = ':' || Text.isBlank c
      let (minutes, rest) ← offsetMinutes lenient rest
      let seconds : Int := (tens * 10 + units) * 3600 + minutes * 60
      return (if mark = '+' then seconds else -seconds, rest)
    else .error .invalid

def literal (expected text : List Char) : Except DateError (List Char) :=
  if byteLength text < byteLength expected then .error .tooShort
  else if text.take expected.length = expected then .ok (text.drop expected.length)
  else .error .invalid

/-- A fraction is read only if the text goes on with a point. -/
def optionalFraction (digits : List Char → Except DateError (Nat × List Char))
    (fields : Fields) : List Char → Except DateError Progress
  | '.' :: rest => do
    let (value, rest) ← digits rest
    return (← fields.withNanosecond value, rest)
  | text => .ok (fields, text)

/-- Reads one item other than the Internet's form of a timestamp. -/
def simpleItem (progress : Progress) (item : Item) : Except DateError Progress :=
  let (fields, text) := progress
  match item with
  | .literal expected => do return (fields, ← literal expected text)
  | .blank => .ok (fields, Text.trimStart text)
  | .number field => numericField field fields text
  | .monthName full => do
    let (index, rest) ← name monthNames full text
    return (← fields.withMonth (index + 1), rest)
  | .weekdayName full => do
    let (index, rest) ← name weekdayNames full text
    return (← fields.withWeekday (.ofIndex index), rest)
  | .halfDay =>
    if byteLength text < 2 then .error .tooShort
    else
      match dropWord? ['a', 'm'] text, dropWord? ['p', 'm'] text with
      | some rest, _ => do return (← fields.withAfternoon false, rest)
      | none, some rest => do return (← fields.withAfternoon true, rest)
      | none, none => .error .invalid
  | .fraction => optionalFraction fractionDigits fields text
  | .fixedFraction digits => optionalFraction (exactFraction digits) fields text
  | .bareFraction digits => do
    let (value, rest) ← exactFraction digits text
    return (← fields.withNanosecond value, rest)
  | .zoneName => .ok (fields, text.dropWhile fun c => !Text.isBlank c)
  | .zoneOffset lenient => do
    let (seconds, rest) ← offset lenient lenient (Text.trimStart text)
    return (← fields.withOffset seconds, rest)
  | .timestampText => .error .badPattern
  | .unknown => .error .badPattern

/-- Date, time and distance from universal time in the Internet's form. -/
def timestampText (progress : Progress) : Except DateError Progress := do
  let (fields, text) ←
    [Item.number .year, .blank, .literal ['-'], .number .month, .blank, .literal ['-'],
      .number .day].foldlM simpleItem progress
  let text ← match text with
    | [] => .error DateError.tooShort
    | mark :: rest =>
      if mark = 't' ∨ mark = 'T' ∨ mark = ' ' then .ok rest else .error .invalid
  let (fields, text) ←
    [Item.number .hour, .blank, .literal [':'], .number .minute, .blank, .literal [':'],
      .number .second, .fraction, .blank].foldlM simpleItem (fields, text)
  match dropWord? ['u', 't', 'c'] text with
  | some rest => return (← fields.withOffset 0, rest)
  | none => do
    let (seconds, rest) ← offset true false text
    return (← fields.withOffset seconds, rest)

def item (progress : Progress) : Item → Except DateError Progress
  | .timestampText => timestampText progress
  | item => simpleItem progress item

end Reader

/-- What a text says about a date, read by a pattern that must take all of it. -/
def Fields.parse (pattern text : String) : Except DateError Fields := do
  let (fields, rest) ← (Pattern.items pattern.toList).foldlM Reader.item ({}, text.toList)
  if rest.isEmpty then return fields else .error .trailing

def Date.parse (pattern text : String) : Except DateError Date := do
  (← Fields.parse pattern text).date

end QueryMenu.Calendar
