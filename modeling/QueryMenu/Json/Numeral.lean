import QueryMenu.Json.Value

namespace QueryMenu.JsonNumber

/-! Reading the numerals of JSON.

A whole number stays exact while it fits 64 bits.  Any other numeral becomes a binary
floating-point number: its digits are gathered into a word of 64 bits, which is rounded
and then scaled by a power of ten, rounding again.  Digits that no longer fit the word
count only by their place, and a number that is too great becomes infinite.
-/

def digitValue (c : Char) : Nat :=
  c.toNat - '0'.toNat

/-- Appends digits to a word of 64 bits as long as they fit; returns the digits left. -/
def gather : (word : Nat) → List Char → Nat × List Char
  | word, [] => (word, [])
  | word, digit :: rest =>
    let next := word * 10 + digitValue digit
    if next < Nat.pow 2 64 then gather next rest else (word, digit :: rest)

/-- The greatest power of ten with a floating-point value. -/
def greatestPower : Nat := 308

/-- Multiplies a magnitude by `10 ^ power`, `power` at most the greatest power, with the
factor itself rounded first. -/
def scaleUp (magnitude : Number.Magnitude) (power : Nat) : Option Number.Magnitude := do
  let factor ← Number.Magnitude.ofRatio? (Nat.pow 10 power) 1
  let (numerator, denominator) := magnitude.ratio
  let (factorNumerator, factorDenominator) := factor.ratio
  Number.Magnitude.ofRatio? (numerator * factorNumerator) (denominator * factorDenominator)

def scaleDown (magnitude : Number.Magnitude) (power : Nat) : Option Number.Magnitude := do
  let factor ← Number.Magnitude.ofRatio? (Nat.pow 10 power) 1
  let (numerator, denominator) := magnitude.ratio
  let (factorNumerator, factorDenominator) := factor.ratio
  Number.Magnitude.ofRatio? (numerator * factorDenominator) (denominator * factorNumerator)

/-- Divides by `10 ^ power`, by at most the greatest power at a time.  Three divisions
bring every magnitude to zero. -/
def shrink : (fuel : Nat) → Number.Magnitude → (power : Nat) → Option Number.Magnitude
  | 0, _, _ => some .zero
  | fuel + 1, magnitude, power =>
    if power ≤ greatestPower then scaleDown magnitude power
    else (scaleDown magnitude greatestPower).bind fun magnitude =>
      shrink fuel magnitude (power - greatestPower)

/-- The magnitude of `word * 10 ^ exponent`, or `none` if it is too great. -/
def magnitude? (word : Nat) (exponent : Int) : Option Number.Magnitude :=
  (Number.Magnitude.ofRatio? word 1).bind fun magnitude =>
    if magnitude = .zero then some .zero
    else if exponent < 0 then shrink 4 magnitude exponent.natAbs
    else if exponent.toNat ≤ greatestPower then scaleUp magnitude exponent.toNat
    else none

/-- The exponent that follows a letter `e`. -/
def exponent? : List Char → Option Int
  | '-' :: digits => unsigned? digits |>.map fun value => -(value : Int)
  | '+' :: digits => unsigned? digits |>.map fun value => (value : Int)
  | digits => unsigned? digits |>.map fun value => (value : Int)
where
  unsigned? (digits : List Char) : Option Nat :=
    if digits.isEmpty || !digits.all Char.isDigit then none
    else some (digits.foldl (fun value digit => value * 10 + digitValue digit) 0)

/-- The digits after the point, if there is one, and the text after them. -/
def fractionDigits? : List Char → Option (List Char × List Char)
  | '.' :: rest =>
    let digits := rest.takeWhile Char.isDigit
    if digits.isEmpty then none else some (digits, rest.dropWhile Char.isDigit)
  | rest => some ([], rest)

def unsigned? (negative : Bool) (text : List Char) : Option JsonNumber := do
  let whole := text.takeWhile Char.isDigit
  let rest := text.dropWhile Char.isDigit
  if whole.isEmpty || (whole.head? = some '0' && whole.length > 1) then none
  let (fraction, tail) ← fractionDigits? rest
  let exponent ← match tail with
    | [] => some 0
    | mark :: digits => if mark = 'e' ∨ mark = 'E' then exponent? digits else none
  let (word, long) := gather 0 whole
  if long.isEmpty && rest.isEmpty && !negative then return .natural word
  else if long.isEmpty && rest.isEmpty && 0 < word && word ≤ Nat.pow 2 63 then
    return .negative word
  else
    let (word, dropped) := gather word fraction
    let place := exponent + long.length - (fraction.length - dropped.length : Nat)
    match magnitude? word place with
    | some magnitude => return .real (.finite negative magnitude)
    | none => return .real (.infinite negative)

def ofText? : List Char → Option JsonNumber
  | '-' :: text => unsigned? true text
  | text => unsigned? false text

end QueryMenu.JsonNumber
