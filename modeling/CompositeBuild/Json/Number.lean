/-
# JSON numbers

A number is an integer of 64 bits, signed or unsigned, or a double-precision number.  A numeral
without fraction and exponent that fits is an integer, and every other numeral is a double.
-/
import CompositeBuild.Number.Shortest

namespace CompositeBuild

/-! ## Numbers -/

/-- The integer fits into 64 bits, with or without a sign. -/
abbrev Json.Fits (value : Int) : Prop :=
  -9223372036854775808 ≤ value ∧ value < 18446744073709551616

/-- A JSON number. -/
inductive Json.Number where
  | integer (value : Int) (fits : Json.Fits value)
  | double (value : Binary64)
deriving DecidableEq, Repr

namespace Json.Number

/-! ## Writing -/

/-- How a double is written: with positional digits while the exponent of its first digit lies
between two bounds, and with an exponent otherwise. -/
structure DoubleStyle where
  leastPositional : Int
  greatestPositional : Int

/-- Doubles from `0.00001` up to below `10 ^ 16` are written with positional digits. -/
def doubleStyle : DoubleStyle := ⟨-5, 15⟩

/-- The digits with a point after the first `count`, filled up with zeros on either side. -/
def positional (digits : List Char) (exponent : Int) : List Char :=
  match exponent with
  | .ofNat e =>
    let whole := digits.take (e + 1)
    let fraction := digits.drop (e + 1)
    whole ++ List.replicate (e + 1 - whole.length) '0' ++ '.' ::
      (if fraction = [] then ['0'] else fraction)
  | .negSucc e => '0' :: '.' :: (List.replicate e '0' ++ digits)

/-- The digits with a point after the first, unless it is the only one, and the exponent. -/
def scientific (digits : List Char) (exponent : Int) : List Char :=
  let mantissa :=
    match digits with
    | [] => []
    | [d] => [d]
    | d :: more => d :: '.' :: more
  let sign := if exponent < 0 then '-' else '+'
  mantissa ++ 'e' :: sign :: Nat.toDigits 10 exponent.natAbs

/-- The text of a double: the shortest digits that read back. -/
def doubleText (style : DoubleStyle) (x : Binary64) : List Char :=
  let sign := if x.negative then ['-'] else []
  if x.significand = 0 then sign ++ ['0', '.', '0']
  else
    let d := x.shortest
    if style.leastPositional ≤ d.exponent ∧ d.exponent ≤ style.greatestPositional then
      sign ++ positional d.digits d.exponent
    else
      sign ++ scientific d.digits d.exponent

/-- The text of an integer. -/
def integerText : Int → List Char
  | .ofNat n => Nat.toDigits 10 n
  | .negSucc n => '-' :: Nat.toDigits 10 (n + 1)

/-- The text of a number. -/
def text : Number → List Char
  | integer value _ => integerText value
  | double value => doubleText doubleStyle value

/-! ## Reading -/

/-- The parts of a numeral: its digits before and after the point, and its exponent. -/
structure Numeral where
  negative : Bool
  whole : List Char
  fraction : List Char
  exponent : Option Int

/-- Appends digits to a significand as long as it stays below `2 ^ 64`; the second part tells how
many digits did not fit. -/
def appendDigits (significand : Nat) : List Char → Nat × Nat
  | [] => (significand, 0)
  | d :: ds =>
    let next := 10 * significand + (d.toNat - '0'.toNat)
    if next < UInt64.size then appendDigits next ds else (significand, ds.length + 1)

/-- The significand and the decimal exponent of a numeral.  Digits that do not fit into 64 bits are
dropped; before the point they count for the exponent. -/
def Numeral.scaled (n : Numeral) : Nat × Int :=
  let (whole, dropped) := appendDigits 0 n.whole
  let (significand, unread) := appendDigits whole n.fraction
  (significand, dropped - (n.fraction.length - unread : Nat) + n.exponent.getD 0)

/-- The double that a numeral stands for; `none` if it is too large. -/
def Numeral.double? (n : Numeral) : Option Number :=
  let (significand, exponent) := n.scaled
  (Binary64.ofDecimal n.negative significand exponent).map double

/-- The number that a numeral stands for; `none` if it is too large.  Minus zero is a double. -/
def Numeral.number? (n : Numeral) : Option Number :=
  if n.fraction = [] ∧ n.exponent = none then
    let size := Nat.ofDigitChars 10 n.whole 0
    let value : Int := if n.negative then -size else size
    if fits : Fits value then
      if n.negative ∧ size = 0 then n.double? else some (integer value fits)
    else
      n.double?
  else
    n.double?

end Json.Number

end CompositeBuild
