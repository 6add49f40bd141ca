/-
# Versions of the host build tool

A version text is a release such as `8.5` or `8.10.2`, optionally with a suffix such as `-rc-1` that
is ignored.  Versions are ordered by number.
-/
import CompositeBuild.Unicode.WhiteSpace

namespace CompositeBuild

open Std

/-- The version of a host build tool. -/
structure HostVersion where
  major : UInt32
  minor : UInt32
  patch : UInt32
deriving DecidableEq, Repr, Inhabited

namespace HostVersion

/-! ## Order and text -/

/-- Versions are compared by their numbers, from left to right. -/
instance : Ord HostVersion :=
  ⟨compareLex (compareOn major) (compareLex (compareOn minor) (compareOn patch))⟩

instance : TransOrd HostVersion :=
  inferInstanceAs (TransCmp
    (compareLex (compareOn major) (compareLex (compareOn minor) (compareOn patch))))

/-- The numbers of the version with points between them. -/
def display (v : HostVersion) : String :=
  s!"{v.major.toNat}.{v.minor.toNat}.{v.patch.toNat}"

/-! ## Reading -/

/-- The text is no version. -/
structure Invalid where
  text : String
deriving DecidableEq, Repr

/-- The message for a text that is no version. -/
def Invalid.message (e : Invalid) : String := s!"invalid host version: {e.text}"

/-- The character starts a suffix. -/
def startsSuffix (c : Char) : Bool := c == '-' || c == '+' || Unicode.isWhiteSpace c

/-- The part of a version text that is read: the text without the white space around it, up to the
first suffix. -/
def base (cs : List Char) : List Char :=
  (Unicode.trim cs).takeWhile fun c => !startsSuffix c

/-- A number of a version: decimal digits for a number below `2 ^ 32`. -/
def number? (digits : List Char) : Option UInt32 :=
  if digits ≠ [] ∧ digits.all Char.isDigit then
    let n := Nat.ofDigitChars 10 digits 0
    if n < UInt32.size then some (UInt32.ofNat n) else none
  else
    none

/-- The version whose numbers are written in the given pieces.  Missing numbers are zero, and pieces
after the third are not looked at. -/
def ofPieces? : List (List Char) → Option HostVersion
  | [] => none
  | [a] => do return ⟨← number? a, 0, 0⟩
  | [a, b] => do return ⟨← number? a, ← number? b, 0⟩
  | a :: b :: c :: _ => do return ⟨← number? a, ← number? b, ← number? c⟩

/-- Reads a version text. -/
def parse (text : String) : Except Invalid HostVersion :=
  match ofPieces? ((base text.toList).splitOn '.') with
  | some v => .ok v
  | none => .error ⟨text⟩

end HostVersion

end CompositeBuild
