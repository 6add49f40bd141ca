/-
# Shortest decimal digits

A double-precision number is written with the fewest decimal digits from which it reads back, and
among those with the digits nearest to it.  A grid of decimals meets the interval that rounds to a
number only if one of the number's two neighbours on that grid does, so only those are tried.
-/
import CompositeBuild.Number.Binary64

namespace CompositeBuild

/-- The decimal `d₁.d₂d₃… * 10 ^ exponent` with the digits `d₁ d₂ d₃ …`. -/
structure Decimal where
  digits : List Char
  exponent : Int
deriving DecidableEq, Repr

namespace Decimal

/-- The decimal `n * 10 ^ power`, without the zeros at its end. -/
def ofScaled (n : Nat) (power : Int) : Decimal :=
  let all := Nat.toDigits 10 n
  let significant := (all.reverse.dropWhile (· = '0')).reverse
  ⟨if significant = [] then ['0'] else significant, power + (all.length - 1 : Nat)⟩

end Decimal

namespace Binary64

/-- The ratio `num / den` divided by `10 ^ e`. -/
def divPow10 (num den : Nat) : Int → Nat × Nat
  | .ofNat k => (num, den * Nat.pow 10 k)
  | .negSucc k => (num * Nat.pow 10 (k + 1), den)

/-- The decimal exponent of the first digit of a positive ratio. -/
def decimalExponent (num den : Nat) : Int :=
  let guess : Int := ((Nat.toDigits 10 num).length : Int) - (Nat.toDigits 10 den).length
  let (n, d) := divPow10 num den guess
  if n < d then guess - 1 else guess

/-- The interval of reals that round to a positive number, as numerators over a common
denominator, with the number itself in the middle: `(low, value, high, den)`. -/
def interval (x : Binary64) : Nat × Nat × Nat × Nat :=
  let below := if x.significand = leastFull ∧ x.exponent > leastExponent then 1 else 2
  let (unit, den) := divPow2 1 4 (-x.exponent)
  ((4 * x.significand - below) * unit, 4 * x.significand * unit, (4 * x.significand + 2) * unit,
    den)

/-- The multiple of `10 ^ power` next to a positive number that rounds to it, if there is one; of
two the nearer, and of two equally near the even one. -/
def onGrid? (x : Binary64) (power : Int) : Option Nat :=
  let (low, value, high, den) := x.interval
  let (v, d) := divPow10 value den power
  let inside (n : Nat) : Bool :=
    let (l, e) := divPow10 low den power
    let (h, _) := divPow10 high den power
    if x.significand % 2 = 0 then l ≤ n * e && n * e ≤ h else l < n * e && n * e < h
  let down := v / d
  match inside down, inside (down + 1) with
  | true, true =>
    let twice := 2 * (v % d)
    some (if twice < d ∨ (twice = d ∧ down % 2 = 0) then down else down + 1)
  | true, false => some down
  | false, true => some (down + 1)
  | false, false => none

/-- The decimal of a number other than zero with the fewest digits, of which seventeen always
suffice. -/
def shortest (x : Binary64) : Decimal :=
  let (num, den) := x.ratio
  let first := decimalExponent num den
  let grids := (List.range 17).map fun (k : Nat) => first - (k : Int)
  match grids.findSome? fun power => (x.onGrid? power).map fun n => Decimal.ofScaled n power with
  | some decimal => decimal
  | none => Decimal.ofScaled num 0

end Binary64

end CompositeBuild
