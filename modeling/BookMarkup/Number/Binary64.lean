/-
This file computes with nonnegative binary floating-point numbers of double precision
as exact values: a mantissa times a power of two. A quotient is rounded to the nearest
such number and halves go to the even neighbour. A number is written with a fixed
count of decimal places, rounded from its exact value in the same way.
-/

import BookMarkup.Text.Basic

namespace BookMarkup

namespace Number

/-- The integer nearest to a quotient; a half goes to the even neighbour. -/
def roundHalfEven (numerator denominator : Nat) : Nat :=
  let quotient := numerator / denominator
  let remainder := numerator % denominator
  if 2 * remainder < denominator then quotient
  else if denominator < 2 * remainder then quotient + 1
  else if quotient % 2 = 0 then quotient else quotient + 1

/-- A nonnegative number of the form mantissa times a power of two. -/
structure Binary64 where
  /-- The integer in front of the power of two. -/
  mantissa : Nat
  /-- The exponent of the power of two. -/
  exponent : Int
  deriving DecidableEq, Repr

namespace Binary64

/-- A value rounded to a multiple of a power of two, as a quotient with that power in it. -/
def scaled (numerator denominator : Nat) (exponent : Int) : Nat × Nat :=
  if exponent < 0 then (numerator <<< exponent.natAbs, denominator)
  else (numerator, denominator <<< exponent.natAbs)

/-- The exponent at which the mantissa of a positive quotient has 53 bits, or the least exponent
that there is. -/
def exponentOf (numerator denominator : Nat) : Int :=
  let guess : Int := (numerator.log2 : Int) - (denominator.log2 : Int) - 52
  let (high, low) := scaled numerator denominator guess
  let exponent := if high < low <<< 52 then guess - 1 else guess
  max exponent (-1074)

/-- The double-precision number nearest to a quotient. -/
def ofQuotient (numerator denominator : Nat) : Binary64 :=
  if numerator = 0 then ⟨0, 0⟩
  else
    let exponent := exponentOf numerator denominator
    let (high, low) := scaled numerator denominator exponent
    ⟨roundHalfEven high low, exponent⟩

/-- The exact value as a numerator and a denominator. -/
def quotient (number : Binary64) : Nat × Nat :=
  if number.exponent < 0 then (number.mantissa, 1 <<< number.exponent.natAbs)
  else (number.mantissa <<< number.exponent.natAbs, 1)

/-- The product with a natural number, rounded to the nearest double-precision number. -/
def scale (factor : Nat) (number : Binary64) : Binary64 :=
  let (numerator, denominator) := number.quotient
  ofQuotient (factor * numerator) denominator

/-- Whether a number is above the greatest finite one. -/
def isInfinite (number : Binary64) : Bool :=
  let (numerator, denominator) := number.quotient
  denominator <<< 1024 ≤ numerator

/-- The decimal form with a fixed count of places. -/
def toFixed (places : Nat) (number : Binary64) : Text :=
  if number.isInfinite then "inf".toList
  else
    let (numerator, denominator) := number.quotient
    let unit := Nat.pow 10 places
    let units := roundHalfEven (numerator * unit) denominator
    let fraction := Text.ofNat (units % unit)
    Text.ofNat (units / unit) ++ ['.'] ++
      List.replicate (places - fraction.length) '0' ++ fraction

end Binary64

end Number

end BookMarkup
