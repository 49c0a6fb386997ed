import QueryMenu.Calendar.Date
import QueryMenu.Text.Basic
import QueryMenu.Toml.Value

namespace QueryMenu.Toml

/-! The unquoted values of TOML: booleans, numbers, dates and times.

A text is first told apart by its form, and only then given a value.  The form of an
integer leaves room for texts without a value: a base without digits, and a decimal numeral
whose underscores are well placed, whatever else stands behind them.
-/

namespace Scalar

def digitValue (c : Char) : Nat :=
  if c.isDigit then c.toNat - '0'.toNat
  else if 'a' ≤ c ∧ c ≤ 'f' then c.toNat - 'a'.toNat + 10
  else c.toNat - 'A'.toNat + 10

def isDigitIn (base : Nat) (c : Char) : Bool :=
  (c.isDigit || ('a' ≤ c && c ≤ 'f') || ('A' ≤ c && c ≤ 'F')) && digitValue c < base

def numberIn (base : Nat) (digits : List Char) : Nat :=
  digits.foldl (fun value digit => value * base + digitValue digit) 0

/-- The digits of a numeral in which single underscores may stand between digits. -/
def digits? (base : Nat) (text : List Char) : Option (List Char) :=
  let groups := Text.fields '_' text
  if groups.all fun group => !group.isEmpty && group.all (isDigitIn base) then
    some groups.flatten
  else none

/-- Decimal digits without a leading zero. -/
def wholeDigits? (text : List Char) : Option (List Char) :=
  (digits? 10 text).filter fun digits => digits.length = 1 || digits.head? ≠ some '0'

/-- Splits a sign off; `true` means minus. -/
def sign : List Char → Option Bool × List Char
  | '+' :: rest => (some false, rest)
  | '-' :: rest => (some true, rest)
  | text => (none, text)

/-- Integers fit a signed word of 64 bits. -/
def fitted (value : Int) : Toml :=
  if -9223372036854775808 ≤ value ∧ value ≤ 9223372036854775807 then .integer value
  else .unreadable

/-- The integer of a base, read after its mark. -/
def basedInteger? (base : Nat) (text : List Char) : Option Toml :=
  if text.isEmpty then some .unreadable
  else (digits? base text).map fun digits => fitted (numberIn base digits)

/-- Every underscore stands between two hexadecimal digits. -/
def joinsDigits (text : List Char) : Bool :=
  let groups := Text.fields '_' text
  groups.dropLast.all (fun group => group.getLast?.any (isDigitIn 16)) &&
    groups.tail.all fun group => group.head?.any (isDigitIn 16)

/-- The text has the form of a decimal integer with underscores: it goes on with one after
its first digits, does not start with zero, and has no mark of a fraction or an exponent
and no blank. -/
def isJoinedInteger (text : List Char) : Bool :=
  (text.dropWhile Char.isDigit).head? = some '_' && joinsDigits text &&
    text.head? ≠ some '0' && text.all fun c => c ≠ '.' && c ≠ 'e' && c ≠ 'E' && c ≠ ' '

def decimalInteger? (negative : Bool) (text : List Char) : Option Toml :=
  match wholeDigits? text with
  | some digits =>
    some (fitted (if negative then -(numberIn 10 digits : Int) else numberIn 10 digits))
  | none => if isJoinedInteger text then some .unreadable else none

/-- An integer: decimal with an optional sign, or hexadecimal, octal or binary. -/
def integer? : List Char → Option Toml
  | '0' :: 'x' :: rest => basedInteger? 16 rest
  | '0' :: 'o' :: rest => basedInteger? 8 rest
  | '0' :: 'b' :: rest => basedInteger? 2 rest
  | text =>
    let (sign, rest) := sign text
    decimalInteger? (sign = some true) rest

/-- A decimal exponent with an optional sign. -/
def exponent? (text : List Char) : Option Int :=
  let (sign, rest) := sign text
  (digits? 10 rest).map fun digits =>
    if sign = some true then -(numberIn 10 digits : Int) else numberIn 10 digits

/-- A floating-point number: a fraction, an exponent or both, or a special value.  Only the
special values may be infinite. -/
def float? (text : List Char) : Option Toml :=
  let (sign, rest) := sign text
  let negative := sign = some true
  if rest = "inf".toList then some (.float (.infinite negative))
  else if rest = "nan".toList then some (.float .nan)
  else do
    let mantissa := rest.takeWhile fun c => c ≠ 'e' && c ≠ 'E'
    let tail := rest.drop mantissa.length
    let exponent ← match tail with
      | [] => some 0
      | _ :: exponent => exponent? exponent
    let whole ← wholeDigits? (mantissa.takeWhile (· ≠ '.'))
    let fraction ← match mantissa.dropWhile (· ≠ '.') with
      | [] => if tail.isEmpty then none else some []
      | _ :: fraction => digits? 10 fraction
    match Number.Magnitude.ofDecimal? (numberIn 10 (whole ++ fraction))
        (exponent - fraction.length) with
    | some magnitude => return .float (.finite negative magnitude)
    | none => return .unreadable

/-- Two digits with a value up to a bound, and the text after them. -/
def twoDigits? (bound : Nat) : List Char → Option (List Char)
  | tens :: units :: rest =>
    if tens.isDigit && units.isDigit && digitValue tens * 10 + digitValue units ≤ bound then
      some rest
    else none
  | _ => none

def date? : List Char → Option (List Char)
  | a :: b :: c :: d :: '-' :: e :: f :: '-' :: g :: h :: rest =>
    if [a, b, c, d, e, f, g, h].all Char.isDigit then
      let month := numberIn 10 [e, f]
      let day := numberIn 10 [g, h]
      if 1 ≤ month ∧ month ≤ 12 ∧ 1 ≤ day ∧
          day ≤ Calendar.daysInMonth (numberIn 10 [a, b, c, d] : Nat) month then some rest
      else none
    else none
  | _ => none

/-- The fraction of a second, if there is one, and the text after it. -/
def fraction? : List Char → Option (List Char)
  | '.' :: rest =>
    if (rest.head?.any Char.isDigit) then some (rest.dropWhile Char.isDigit) else none
  | rest => some rest

/-- A time of day, whose seconds may be left out, and the text after it. -/
def time? (text : List Char) : Option (List Char) := do
  match ← twoDigits? 23 text with
  | ':' :: rest =>
    match ← twoDigits? 59 rest with
    | ':' :: rest => fraction? (← twoDigits? 60 rest)
    | rest => some rest
  | _ => none

/-- A distance from universal time in hours and minutes, filling the text. -/
def isOffset : List Char → Bool
  | ['Z'] => true
  | ['z'] => true
  | sign :: distance =>
    (sign = '+' || sign = '-') &&
      match twoDigits? 23 distance with
      | some (':' :: minutes) => twoDigits? 59 minutes = some []
      | _ => false
  | [] => false

/-- A time, a day, or a day and a time with or without a distance from universal time. -/
def isDatetime (text : List Char) : Bool :=
  match date? text with
  | none => time? text = some []
  | some [] => true
  | some (mark :: rest) =>
    (mark = 'T' || mark = 't' || mark = ' ') &&
      match time? rest with
      | none => false
      | some [] => true
      | some rest => isOffset rest

def ofText? (text : List Char) : Option Toml :=
  if text = "true".toList then some (.boolean true)
  else if text = "false".toList then some (.boolean false)
  else if isDatetime text then some .datetime
  else (integer? text).or (float? text)

end Scalar

end QueryMenu.Toml
