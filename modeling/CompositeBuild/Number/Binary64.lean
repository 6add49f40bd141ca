/-
# Double-precision numbers

A finite number of the IEEE 754 binary64 format is held as its sign, significand and binary
exponent.  Rounding, multiplication and division are exact computations on natural numbers that end
in one rounding to nearest, ties going to the even significand.
-/

namespace CompositeBuild

/-- The finite number `± significand * 2 ^ exponent`.  A significand has at most 53 bits; one with
fewer bits stands with the least exponent, `-1074`. -/
structure Binary64 where
  negative : Bool
  significand : Nat
  exponent : Int
deriving DecidableEq, Repr

namespace Binary64

/-- The least exponent of the format. -/
def leastExponent : Int := -1074

/-- The least significand of 53 bits. -/
def leastFull : Nat := Nat.pow 2 52

/-- The greatest exponent of the format. -/
def greatestExponent : Int := 971

/-- Zero, which has a sign. -/
def zero (negative : Bool) : Binary64 := ⟨negative, 0, leastExponent⟩

/-! ## Ratios -/

/-- The ratio `num / den` divided by `2 ^ e`. -/
def divPow2 (num den : Nat) : Int → Nat × Nat
  | .ofNat k => (num, den * Nat.pow 2 k)
  | .negSucc k => (num * Nat.pow 2 (k + 1), den)

/-- The size of the number as a ratio of natural numbers. -/
def ratio (x : Binary64) : Nat × Nat :=
  divPow2 x.significand 1 (-x.exponent)

/-- The quotient rounded to the nearest natural number, a half going to the even one. -/
def roundDiv (num den : Nat) : Nat :=
  let low := num / den
  let twice := 2 * (num % den)
  if twice < den ∨ (twice = den ∧ low % 2 = 0) then low else low + 1

/-- The exponent at which the ratio has a significand of 53 bits, or the least exponent if it is
smaller than such numbers. -/
def exponentOf (num den : Nat) : Int :=
  let guess : Int := (num.log2 : Int) - den.log2 - 52
  let (n, d) := divPow2 num den guess
  max (if n < leastFull * d then guess - 1 else guess) leastExponent

/-- The number nearest to a ratio with a positive denominator; `none` if it lies beyond the greatest
number. -/
def nearest (negative : Bool) (num den : Nat) : Option Binary64 :=
  if num = 0 then some (zero negative)
  else
    let exponent := exponentOf num den
    let (n, d) := divPow2 num den exponent
    let significand := roundDiv n d
    let (significand, exponent) :=
      if significand = 2 * leastFull then (leastFull, exponent + 1) else (significand, exponent)
    if exponent > greatestExponent then none else some ⟨negative, significand, exponent⟩

/-! ## Arithmetic -/

/-- The product, rounded. -/
def mul? (x y : Binary64) : Option Binary64 :=
  let (a, b) := x.ratio
  let (c, d) := y.ratio
  nearest (x.negative != y.negative) (a * c) (b * d)

/-- The quotient by a number other than zero, rounded. -/
def div? (x y : Binary64) : Option Binary64 :=
  let (a, b) := x.ratio
  let (c, d) := y.ratio
  nearest (x.negative != y.negative) (a * d) (b * c)

/-- The power of ten, rounded. -/
def powTen? (k : Nat) : Option Binary64 := nearest false (Nat.pow 10 k) 1

/-- The number `± significand * 10 ^ exponent`, read by rounding the significand first and then its
product with, or quotient by, a rounded power of ten.  The greatest power that is used is
`10 ^ 308`; a smaller number takes two divisions.  It is `none` if a product overflows or the
exponent exceeds 308, and a zero if the number is below all others. -/
def ofDecimal (negative : Bool) (significand : Nat) (exponent : Int) : Option Binary64 := do
  let start ← nearest negative significand 1
  if significand = 0 then
    return start
  else if exponent > 308 then
    none
  else if exponent ≥ 0 then
    start.mul? (← powTen? exponent.toNat)
  else if exponent ≥ -308 then
    start.div? (← powTen? (-exponent).toNat)
  else if exponent ≥ -616 then
    (← start.div? (← powTen? 308)).div? (← powTen? (-exponent - 308).toNat)
  else
    return zero negative

end Binary64

end CompositeBuild
