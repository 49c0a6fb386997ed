import QueryMenu.Number.Binary64

namespace QueryMenu.Number

/-! The shortest decimal text of a binary floating-point number.

Among the decimals that read back as the number, one with the fewest digits is written;
among those, the nearest to the number.  A record says which one is taken of two that are
as near, and when the digits are written with an exponent.
-/

structure Decimal where
  digits : Nat
  exponent : Int
deriving DecidableEq, Repr

/-- The power of ten of a ratio's first digit, searched downwards from ones for at most
`fuel` places. -/
def fractionExponent : (fuel numerator denominator : Nat) → Nat
  | 0, _, _ => 0
  | fuel + 1, numerator, denominator =>
    if denominator ≤ numerator then 0
    else fractionExponent fuel (numerator * 10) denominator + 1

def leadingExponent (numerator denominator : Nat) : Int :=
  if denominator ≤ numerator then (Magnitude.digitCount (numerator / denominator) : Int) - 1
  else -(fractionExponent 400 numerator denominator : Int)

/-- The neighbours of a magnitude on the grid of multiples of `10 ^ exponent` that read
back as the magnitude, the nearer one first. -/
def neighbours (halfway : Halfway) (magnitude : Magnitude) (exponent : Int) :
    List Decimal :=
  let (numerator, denominator) := magnitude.ratio
  let (scaled, unit) :=
    if 0 ≤ exponent then (numerator, denominator * Nat.pow 10 exponent.toNat)
    else (numerator * Nat.pow 10 exponent.natAbs, denominator)
  let below := scaled / unit
  let nearest := roundRatio halfway scaled unit
  let candidates := if nearest = below then [below, below + 1] else [below + 1, below]
  (candidates.filter fun digits => Magnitude.ofDecimal? digits exponent = some magnitude).map
    fun digits => ⟨digits, exponent⟩

/-- The first decimal that reads back, with `count` digits or more. -/
def searchShortest (halfway : Halfway) (magnitude : Magnitude) (leading : Int) :
    (fuel count : Nat) → Decimal
  | 0, _ => ⟨magnitude.significand, 0⟩
  | fuel + 1, count =>
    match neighbours halfway magnitude (leading - count + 1) with
    | decimal :: _ => decimal
    | [] => searchShortest halfway magnitude leading fuel (count + 1)

/-- The shortest decimal that reads back as the magnitude; 17 digits always suffice. -/
def shortest (halfway : Halfway) (magnitude : Magnitude) : Decimal :=
  if magnitude.significand = 0 then ⟨0, 0⟩
  else
    let (numerator, denominator) := magnitude.ratio
    searchShortest halfway magnitude (leadingExponent numerator denominator) 17 1

/-- How the digits of a number are chosen and laid out. -/
structure Layout where
  /-- Which is written of two shortest decimals that are as near to the number. -/
  halfway : Halfway
  /-- The powers of ten of the first digit that are written without an exponent. -/
  positional : Int → Bool
  infinity : String
  nan : String

/-- Digits around a point, with at least one on either side. -/
def positionalText (digits : String) (leading : Int) : String :=
  if leading < 0 then
    "0." ++ String.ofList (List.replicate (leading.natAbs - 1) '0') ++ digits
  else
    let whole := leading.toNat + 1
    let padded := digits.toList ++ List.replicate (whole - digits.length) '0'
    let fraction := padded.drop whole
    String.ofList (padded.take whole) ++ "." ++
      (if fraction.isEmpty then "0" else String.ofList fraction)

/-- One digit before the point, the others after it, and an exponent with its sign. -/
def exponentText (digits : String) (leading : Int) : String :=
  let fraction := digits.toList.drop 1
  String.ofList (digits.toList.take 1) ++
    (if fraction.isEmpty then "" else "." ++ String.ofList fraction) ++
    (if leading < 0 then "e-" else "e+") ++ toString leading.natAbs

/-- The digits of a decimal without trailing zeros. -/
def significantDigits (decimal : Decimal) : List Char :=
  ((toString decimal.digits).toList.reverse.dropWhile (· = '0')).reverse

def Layout.text (layout : Layout) : Binary64 → String
  | .nan => layout.nan
  | .infinite negative => (if negative then "-" else "") ++ layout.infinity
  | .finite negative magnitude =>
    let decimal := shortest layout.halfway magnitude
    let leading := decimal.exponent + Magnitude.digitCount decimal.digits - 1
    let digits :=
      if decimal.digits = 0 then "0" else String.ofList (significantDigits decimal)
    (if negative then "-" else "") ++
      if layout.positional leading then positionalText digits leading
      else exponentText digits leading

end QueryMenu.Number
