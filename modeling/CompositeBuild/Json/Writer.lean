/-
# Writing JSON

A value is written on a single line, or with every item and member on a line of its own, indented by
two spaces for each level of nesting.  Empty arrays and objects are written without a line break in
either layout.
-/
import CompositeBuild.Json.Value

namespace CompositeBuild.Json

/-! ## Strings -/

/-- The digit of a number below sixteen. -/
def hexDigit (n : Nat) : Char := Nat.digitChar n

/-- A character inside a string.  The quote, the backslash and the control characters below the
space are escaped, and nothing else. -/
def escape (c : Char) : List Char :=
  if c = '"' then ['\\', '"']
  else if c = '\\' then ['\\', '\\']
  else if c = '\x08' then ['\\', 'b']
  else if c = '\x0c' then ['\\', 'f']
  else if c = '\n' then ['\\', 'n']
  else if c = '\r' then ['\\', 'r']
  else if c = '\t' then ['\\', 't']
  else if c.toNat < 0x20 then
    ['\\', 'u', '0', '0', hexDigit (c.toNat / 16), hexDigit (c.toNat % 16)]
  else [c]

/-- A string with its quotes. -/
def quote (cs : List Char) : List Char := '"' :: (cs.flatMap escape ++ ['"'])

/-! ## Layouts -/

/-- The layout of a written value. -/
inductive Layout where
  | compact
  | pretty
deriving DecidableEq, Repr

namespace Layout

/-- The break before an item or a closing bracket at a level of nesting. -/
def lineBreak (layout : Layout) (level : Nat) : List Char :=
  match layout with
  | compact => []
  | pretty => '\n' :: List.replicate (2 * level) ' '

/-- What stands between a key and its value. -/
def colon : Layout → List Char
  | compact => [':']
  | pretty => [':', ' ']

end Layout

/-! ## Values -/

mutual

/-- The text of a value that stands at a level of nesting. -/
def write (layout : Layout) (level : Nat) : Json → List Char
  | null => ['n', 'u', 'l', 'l']
  | bool true => ['t', 'r', 'u', 'e']
  | bool false => ['f', 'a', 'l', 's', 'e']
  | number n => n.text
  | string s => quote s.toList
  | array [] => ['[', ']']
  | array (item :: rest) =>
    '[' :: (layout.lineBreak (level + 1) ++ write layout (level + 1) item ++
      writeItems layout (level + 1) rest ++ layout.lineBreak level ++ [']'])
  | object [] => ['{', '}']
  | object ((key, value) :: rest) =>
    '{' :: (layout.lineBreak (level + 1) ++ quote key.toList ++ layout.colon ++
      write layout (level + 1) value ++ writeMembers layout (level + 1) rest ++
      layout.lineBreak level ++ ['}'])

/-- The items after the first, each with the comma before it. -/
def writeItems (layout : Layout) (level : Nat) : List Json → List Char
  | [] => []
  | item :: rest =>
    ',' :: (layout.lineBreak level ++ write layout level item ++ writeItems layout level rest)

/-- The members after the first, each with the comma before it. -/
def writeMembers (layout : Layout) (level : Nat) : List (String × Json) → List Char
  | [] => []
  | (key, value) :: rest =>
    ',' :: (layout.lineBreak level ++ quote key.toList ++ layout.colon ++
      write layout level value ++ writeMembers layout level rest)

end

/-- The text of a value. -/
def toText (layout : Layout) (v : Json) : String := String.ofList (write layout 0 v)

/-- The text of a value on a single line. -/
def compact (v : Json) : String := v.toText .compact

/-- The text of a value on indented lines. -/
def pretty (v : Json) : String := v.toText .pretty

end CompositeBuild.Json
