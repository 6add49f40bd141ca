/-
# Literals, numerals and strings of a JSON text

Each reader takes the characters after the start of a lexeme and gives what it found together with
the characters that follow.
-/
import CompositeBuild.Json.Node

namespace CompositeBuild.Json

/-! ## White space -/

/-- The characters that may stand between lexemes. -/
def isBlank (c : Char) : Bool := c == ' ' || c == '\t' || c == '\n' || c == '\r'

/-- The text from its first character that is not blank. -/
def skipBlanks (cs : List Char) : List Char := cs.dropWhile isBlank

/-! ## Literals -/

/-- Reads the characters of a word. -/
def readWord : List Char → List Char → Except Fault (List Char)
  | [], cs => .ok cs
  | _ :: _, [] => .error .unfinished
  | w :: ws, c :: cs => if c = w then readWord ws cs else .error .malformed

/-- A node that is faulty whether it is decoded or skipped. -/
def Node.bad (fault : Fault) : Node := .faulty fault (some fault)

/-- Reads the rest of a literal such as `null`. -/
def readLiteral (word : List Char) (value : Node) (cs : List Char) : Node × List Char :=
  match readWord word cs with
  | .ok rest => (value, rest)
  | .error fault => (.bad fault, [])

/-! ## Numerals -/

/-- The fault of a numeral that breaks off before a text: a numeral that is decoded may be
unfinished. -/
def brokenNumeral (rest : List Char) : Node :=
  .faulty (if rest = [] then .unfinished else .malformed) (some .malformed)

/-- The node of a complete numeral. -/
def numeralNode (n : Number.Numeral) : Node :=
  match n.number? with
  | some value => .number value
  | none => .faulty .malformed none

/-- Reads the exponent of a numeral, if it has one. -/
def readExponent (n : Number.Numeral) (cs : List Char) : Node × List Char :=
  match cs with
  | c :: rest =>
    if c = 'e' ∨ c = 'E' then
      let (negative, rest) :=
        match rest with
        | '+' :: more => (false, more)
        | '-' :: more => (true, more)
        | _ => (false, rest)
      let (digits, rest) := rest.span Char.isDigit
      if digits = [] then (brokenNumeral rest, [])
      else
        let size : Int := Nat.ofDigitChars 10 digits 0
        (numeralNode { n with exponent := some (if negative then -size else size) }, rest)
    else
      (numeralNode n, cs)
  | [] => (numeralNode n, cs)

/-- Reads the fraction and the exponent of a numeral, if it has them. -/
def readFraction (n : Number.Numeral) (cs : List Char) : Node × List Char :=
  match cs with
  | '.' :: rest =>
    let (digits, rest) := rest.span Char.isDigit
    if digits = [] then (brokenNumeral rest, [])
    else readExponent { n with fraction := digits } rest
  | _ => readExponent n cs

/-- Reads a numeral from its first digit on.  A numeral of several digits does not start with a
zero. -/
def readNumeral (negative : Bool) (cs : List Char) : Node × List Char :=
  match cs.span Char.isDigit with
  | ([], rest) => (brokenNumeral rest, [])
  | ('0' :: _ :: _, _) => (.bad .malformed, [])
  | (digits, rest) => readFraction ⟨negative, digits, [], none⟩ rest

/-! ## Strings -/

/-- A unit of a string: a character that stands for itself or is named by a short escape, or a code
unit of 16 bits that is spelled by its number. -/
inductive StringUnit where
  | char (c : Char)
  | code (n : Nat)

/-- How the units of a string end. -/
inductive StringEnd where
  | closed (rest : List Char)
  | cut (fault : Fault)

/-- The number of a hexadecimal digit. -/
def hexValue? (c : Char) : Option Nat :=
  if '0' ≤ c ∧ c ≤ '9' then some (c.toNat - '0'.toNat)
  else if 'a' ≤ c ∧ c ≤ 'f' then some (c.toNat - 'a'.toNat + 10)
  else if 'A' ≤ c ∧ c ≤ 'F' then some (c.toNat - 'A'.toNat + 10)
  else none

/-- The code unit that four hexadecimal digits spell. -/
def codeUnit? (a b c d : Char) : Option Nat := do
  return 4096 * (← hexValue? a) + 256 * (← hexValue? b) + 16 * (← hexValue? c) + (← hexValue? d)

/-- The fault of a string in which no four hexadecimal digits follow `\u`: it is unfinished if fewer
than four bytes are left. -/
def brokenCode (cs : List Char) : Fault :=
  if (String.ofList (cs.take 4)).utf8ByteSize < 4 then .unfinished else .malformed

/-- The character that a short escape stands for. -/
def shortEscape? (c : Char) : Option Char :=
  match c with
  | '"' => some '"'
  | '\\' => some '\\'
  | '/' => some '/'
  | 'b' => some '\x08'
  | 'f' => some '\x0c'
  | 'n' => some '\n'
  | 'r' => some '\r'
  | 't' => some '\t'
  | _ => none

/-- The units of a string from the character after its opening quote on. -/
def stringUnits : List Char → List StringUnit × StringEnd
  | [] => ([], .cut .unfinished)
  | '"' :: rest => ([], .closed rest)
  | '\\' :: 'u' :: a :: b :: c :: d :: rest =>
    match codeUnit? a b c d with
    | some n =>
      let (units, ending) := stringUnits rest
      (.code n :: units, ending)
    | none => ([], .cut (brokenCode (a :: b :: c :: d :: rest)))
  | '\\' :: 'u' :: rest => ([], .cut (brokenCode rest))
  | ['\\'] => ([], .cut .unfinished)
  | '\\' :: e :: rest =>
    match shortEscape? e with
    | some c =>
      let (units, ending) := stringUnits rest
      (.char c :: units, ending)
    | none => ([], .cut .malformed)
  | c :: rest =>
    if c.toNat < 0x20 then ([], .cut .malformed)
    else
      let (units, ending) := stringUnits rest
      (.char c :: units, ending)

/-- The code unit is the first of a surrogate pair. -/
def isLeading (n : Nat) : Bool := 0xD800 ≤ n && n ≤ 0xDBFF

/-- The code unit is the second of a surrogate pair. -/
def isTrailing (n : Nat) : Bool := 0xDC00 ≤ n && n ≤ 0xDFFF

/-- The characters of the units; `none` if a surrogate is not part of a pair. -/
def joinUnits : List StringUnit → Option (List Char)
  | [] => some []
  | .char c :: rest => (joinUnits rest).map (c :: ·)
  | .code n :: rest =>
    if isTrailing n then none
    else if isLeading n then
      match rest with
      | .code m :: rest =>
        if isTrailing m then
          (joinUnits rest).map (Char.ofNat (0x10000 + (n - 0xD800) * 0x400 + (m - 0xDC00)) :: ·)
        else none
      | _ => none
    else
      (joinUnits rest).map (Char.ofNat n :: ·)

/-- The units without a leading surrogate at their end. -/
def dropLeadingAtEnd : List StringUnit → List StringUnit
  | [] => []
  | [.code n] => if isLeading n then [] else [.code n]
  | unit :: rest => unit :: dropLeadingAtEnd rest

/-- What a reader found where a string has to stand. -/
inductive StringLexeme where
  /-- A complete string, which is `none` if it cannot be decoded. -/
  | complete (text : Option String) (rest : List Char)
  | broken (decoded skipped : Fault)

/-- Reads a string from the character after its opening quote on.  If a string breaks off after a
surrogate without its partner, decoding it fails for that reason. -/
def readString (cs : List Char) : StringLexeme :=
  match stringUnits cs with
  | (units, .closed rest) => .complete ((joinUnits units).map String.ofList) rest
  | (units, .cut fault) =>
    match joinUnits (dropLeadingAtEnd units) with
    | some _ => .broken fault fault
    | none => .broken .malformed fault

end CompositeBuild.Json
