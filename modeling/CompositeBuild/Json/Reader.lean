/-
# Reading JSON

The tree of a JSON text.  Reading never fails: what is wrong with a text stands in the tree.
-/
import CompositeBuild.Json.Lexeme

namespace CompositeBuild.Json

mutual

/-- Reads a value and gives the text after it.  Of four calls in each other at least one reads a
character, so that four times as much fuel as characters is never used up. -/
def readNode : Nat → List Char → Node × List Char
  | 0, _ => (.bad .unfinished, [])
  | fuel + 1, cs =>
    match skipBlanks cs with
    | [] => (.bad .unfinished, [])
    | '[' :: rest =>
      let (items, rest) := readItems fuel true rest
      (.array items, rest)
    | '{' :: rest =>
      let (members, rest) := readMembers fuel true rest
      (.object members, rest)
    | '"' :: rest =>
      match readString rest with
      | .complete (some text) rest => (.string text, rest)
      | .complete none rest => (.faulty .malformed none, rest)
      | .broken decoded skipped => (.faulty decoded (some skipped), [])
    | 'n' :: rest => readLiteral ['u', 'l', 'l'] .null rest
    | 't' :: rest => readLiteral ['r', 'u', 'e'] (.bool true) rest
    | 'f' :: rest => readLiteral ['a', 'l', 's', 'e'] (.bool false) rest
    | '-' :: rest => readNumeral true rest
    | c :: rest => if c.isDigit then readNumeral false (c :: rest) else (.bad .malformed, [])

/-- Reads the items of an array up to and with its closing bracket.  `first` tells that no item has
been read. -/
def readItems : Nat → Bool → List Char → Items × List Char
  | 0, _, _ => (.cut .unfinished, [])
  | fuel + 1, first, cs =>
    match skipBlanks cs with
    | [] => (.cut .unfinished, [])
    | ']' :: rest => (.done, rest)
    | c :: rest =>
      if first then readItem fuel (c :: rest)
      else if c = ',' then readItem fuel rest
      else (.cut .malformed, [])

/-- Reads an item of an array and those after it. -/
def readItem : Nat → List Char → Items × List Char
  | 0, _ => (.cut .unfinished, [])
  | fuel + 1, cs =>
    let (node, rest) := readNode fuel cs
    let (items, rest) := readItems fuel false rest
    (.more node items, rest)

/-- Reads the members of an object up to and with its closing brace.  `first` tells that no member
has been read. -/
def readMembers : Nat → Bool → List Char → Members × List Char
  | 0, _, _ => (.cut .unfinished, [])
  | fuel + 1, first, cs =>
    match skipBlanks cs with
    | [] => (.cut .unfinished, [])
    | '}' :: rest => (.done, rest)
    | c :: rest =>
      if first then readMember fuel (c :: rest)
      else if c = ',' then readMember fuel rest
      else (.cut .malformed, [])

/-- Reads a member of an object and those after it. -/
def readMember : Nat → List Char → Members × List Char
  | 0, _ => (.cut .unfinished, [])
  | fuel + 1, cs =>
    match skipBlanks cs with
    | [] => (.badKey .unfinished .unfinished, [])
    | '"' :: rest =>
      match readString rest with
      | .complete key rest =>
        let (value, rest) := readMemberValue fuel rest
        let (members, rest) := readMembers fuel false rest
        (.more key value members, rest)
      | .broken decoded skipped => (.badKey decoded skipped, [])
    | _ :: _ => (.badKey .malformed .malformed, [])

/-- Reads the colon and the value of a member. -/
def readMemberValue : Nat → List Char → Node × List Char
  | 0, _ => (.bad .unfinished, [])
  | fuel + 1, cs =>
    match skipBlanks cs with
    | [] => (.bad .unfinished, [])
    | ':' :: rest => readNode fuel rest
    | _ => (.bad .malformed, [])

end

/-- The value at the start of a text, and the text after it. -/
def readText (cs : List Char) : Node × List Char := readNode (4 * cs.length + 4) cs

end CompositeBuild.Json
