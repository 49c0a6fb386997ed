namespace QueryMenu.Number

/-! Binary floating-point numbers of 64 bits, in exact arithmetic.

A finite magnitude is a whole number times a power of two.  A ratio of whole numbers
is rounded to the nearest such magnitude, and halfway cases to an even significand.
-/

/-- The magnitude `significand * 2 ^ exponent`. -/
structure Magnitude where
  significand : Nat
  exponent : Int
deriving DecidableEq, Repr

inductive Binary64 where
  | finite (negative : Bool) (magnitude : Magnitude)
  | infinite (negative : Bool)
  | nan
deriving DecidableEq, Repr

def Binary64.isFinite : Binary64 → Bool
  | .finite _ _ => true
  | .infinite _ => false
  | .nan => false

/-- Which of its two neighbours a ratio goes to that is as near to both. -/
inductive Halfway where
  | toEven
  | toGreater
deriving DecidableEq, Repr

/-- The neighbour that a ratio halfway above a whole number goes to. -/
def Halfway.neighbour : Halfway → Nat → Nat
  | .toEven, below => below + below % 2
  | .toGreater, below => below + 1

def roundRatio (halfway : Halfway) (numerator denominator : Nat) : Nat :=
  let quotient := numerator / denominator
  let rest := 2 * (numerator % denominator)
  if rest < denominator then quotient
  else if denominator < rest then quotient + 1
  else halfway.neighbour quotient

/-- A ratio after division by a power of two. -/
def scaleDown (numerator denominator : Nat) (exponent : Int) : Nat × Nat :=
  if 0 ≤ exponent then (numerator, denominator * Nat.pow 2 exponent.toNat)
  else (numerator * Nat.pow 2 exponent.natAbs, denominator)

namespace Magnitude

def zero : Magnitude := ⟨0, 0⟩

/-- The smallest exponent that a magnitude may have. -/
def leastExponent : Int := -1074

/-- The exponent that leaves 53 bits before the binary point of a ratio. -/
def exponentOf (numerator denominator : Nat) : Int :=
  let guess : Int := (numerator.log2 : Int) - denominator.log2 - 52
  let (scaled, unit) := scaleDown numerator denominator guess
  max leastExponent (if scaled < unit * Nat.pow 2 52 then guess - 1 else guess)

/-- The magnitude nearest to a ratio, or `none` if that is beyond the greatest one. -/
def ofRatio? (numerator denominator : Nat) : Option Magnitude :=
  if numerator = 0 then some zero
  else
    let exponent := exponentOf numerator denominator
    let (scaled, unit) := scaleDown numerator denominator exponent
    let significand := roundRatio .toEven scaled unit
    let (significand, exponent) :=
      if significand = Nat.pow 2 53 then (Nat.pow 2 52, exponent + 1)
      else (significand, exponent)
    if 971 < exponent then none
    else if significand = 0 then some zero
    else some ⟨significand, exponent⟩

def ratio (magnitude : Magnitude) : Nat × Nat :=
  if 0 ≤ magnitude.exponent then (magnitude.significand * Nat.pow 2 magnitude.exponent.toNat, 1)
  else (magnitude.significand, Nat.pow 2 magnitude.exponent.natAbs)

def digitCount (number : Nat) : Nat :=
  (toString number).length

/-- The magnitude nearest to `digits * 10 ^ exponent`, or `none` beyond the greatest one.
Exponents so large or so small that the digits cannot matter are settled at once. -/
def ofDecimal? (digits : Nat) (exponent : Int) : Option Magnitude :=
  if digits = 0 then some zero
  else if 310 < exponent + digitCount digits then none
  else if exponent + digitCount digits < -330 then some zero
  else if 0 ≤ exponent then ofRatio? (digits * Nat.pow 10 exponent.toNat) 1
  else ofRatio? digits (Nat.pow 10 exponent.natAbs)

end Magnitude

end QueryMenu.Number
