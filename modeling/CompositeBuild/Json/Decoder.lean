/-
# Decoding JSON

A decoder turns the tree of a text into a value of some type.  It walks the tree in the order of the
text and reports the first problem.  A decoder is told how many levels of nesting may still be
opened; a text may nest 127 levels, and a value in memory as many as it has.
-/
import CompositeBuild.Json.Reader
import CompositeBuild.Path

namespace CompositeBuild.Json

/-- Decodes a node in which the given number of levels may be opened. -/
abbrev Decoder (α : Type) := Nat → Node → Except DecodeError α

/-! ## Complete values -/

mutual

/-- The JSON value of a node. -/
def Node.value : Nat → Node → Except DecodeError Json
  | _, .null => .ok Json.null
  | _, .bool value => .ok (Json.bool value)
  | _, .number value => .ok (Json.number value)
  | _, .string value => .ok (Json.string value)
  | _, .faulty decoded _ => .error (.text decoded)
  | 0, .array _ => .error (.text .malformed)
  | room + 1, .array items => do return Json.array (← items.values room)
  | 0, .object _ => .error (.text .malformed)
  | room + 1, .object members => do return Json.object (← members.values room)

/-- The JSON values of the items of an array. -/
def Items.values : Nat → Items → Except DecodeError (List Json)
  | _, .done => .ok []
  | _, .cut fault => .error (.text fault)
  | room, .more first rest => do
    let value ← first.value room
    return value :: (← rest.values room)

/-- The keys and JSON values of the members of an object. -/
def Members.values : Nat → Members → Except DecodeError (List (String × Json))
  | _, .done => .ok []
  | _, .cut fault => .error (.text fault)
  | _, .badKey decoded _ => .error (.text decoded)
  | _, .more none _ _ => .error (.text .malformed)
  | room, .more (some key) value rest => do
    let value ← value.value room
    return (key, value) :: (← rest.values room)

end

namespace Decoder

/-! ## Scalars -/

/-- Decodes a string, which a message calls `wanted`. -/
def stringAs (wanted : String) : Decoder String
  | _, .string value => .ok value
  | _, node => .error (node.mismatch wanted)

/-- Decodes a string. -/
def string : Decoder String := stringAs "a string"

/-- Decodes a path. -/
def path : Decoder Path := fun room node => do return ⟨← stringAs "path string" room node⟩

/-- Decodes a truth value. -/
def bool : Decoder Bool
  | _, .bool value => .ok value
  | _, node => .error (node.mismatch "a boolean")

/-- Decodes null. -/
def unit : Decoder Unit
  | _, .null => .ok ()
  | _, node => .error (node.mismatch "unit")

/-- Decodes any value. -/
def value : Decoder Json := Node.value

/-! ## Sequences and maps -/

/-- Decodes the items of an array. -/
def items {α : Type} (decode : Node → Except DecodeError α) : Items → Except DecodeError (List α)
  | .done => .ok []
  | .cut fault => .error (.text fault)
  | .more first rest => do
    let value ← decode first
    return value :: (← items decode rest)

/-- Decodes an array.  There is no way to decode its items if no level may be opened. -/
def listOf {α : Type} : Option (Node → Except DecodeError α) → Node → Except DecodeError (List α)
  | none, .array _ => .error (.text .malformed)
  | some decode, .array nodes => items decode nodes
  | _, node => .error (node.mismatch "a sequence")

/-- Decodes an array. -/
def list {α : Type} (decode : Decoder α) : Decoder (List α)
  | 0 => listOf none
  | room + 1 => listOf (some (decode room))

/-- Decodes the members of an object. -/
def members {α : Type} (decode : Node → Except DecodeError α) :
    Members → Except DecodeError (List (String × α))
  | .done => .ok []
  | .cut fault => .error (.text fault)
  | .badKey decoded _ => .error (.text decoded)
  | .more none _ _ => .error (.text .malformed)
  | .more (some key) value rest => do
    let value ← decode value
    return (key, value) :: (← members decode rest)

/-- Decodes an object whose keys are not fixed. -/
def entries {α : Type} (decode : Decoder α) : Decoder (List (String × α))
  | 0, .object _ => .error (.text .malformed)
  | room + 1, .object nodes => members (decode room) nodes
  | _, node => .error (node.mismatch "a map")

/-! ## Texts and values -/

/-- How many levels of nesting a text may have. -/
def textRoom : Nat := 127

/-- In a text, an array with more items than are wanted is malformed where the next item starts. -/
def inText : DecodeError → DecodeError
  | .data (.tooManyItems _) => .text .malformed
  | other => other

/-- Decodes a text that holds one value with nothing but blanks around it. -/
def fromChars {α : Type} (decode : Decoder α) (cs : List Char) : Except DecodeError α :=
  match readText cs with
  | (node, rest) =>
    match decode textRoom node with
    | .error e => .error (inText e)
    | .ok value => if rest.all isBlank then .ok value else .error (.text .malformed)

/-- Decodes a text that holds one value with nothing but blanks around it. -/
def fromText {α : Type} (decode : Decoder α) (text : String) : Except DecodeError α :=
  decode.fromChars text.toList

/-- Decodes a value in memory, which holds the members of objects sorted by key. -/
def fromValue {α : Type} (decode : Decoder α) (value : Json) : Except DecodeError α :=
  decode value.depth value.sorted.toNode

end Decoder

/-- Reads a text that holds any value. -/
def parse (text : String) : Except DecodeError Json := Decoder.value.fromText text

end CompositeBuild.Json
