/-
# What a JSON text holds

Decoding reports the first problem of a text, whether it is a fault of the text itself or a value of
the wrong kind.  So a text is first read into a tree that ends where the text stops making sense: a
`Node` for each value, with the fault in the place where it was met.  Decoders walk the tree in the
order of the text, and the first problem they meet is the first of the text.

A value that is decoded has to meet more conditions than one that is skipped: a number must not be
too large, surrogates in a string must be paired, and nesting is limited.
-/
import CompositeBuild.Json.Value
import CompositeBuild.Text.Quotation

namespace CompositeBuild.Json

/-! ## Trees -/

/-- What can be wrong with a text. -/
inductive Fault where
  /-- A character cannot stand in its place. -/
  | malformed
  /-- The text ends before the value is complete. -/
  | unfinished
deriving DecidableEq, Repr

mutual

/-- A value of a text. -/
inductive Node where
  | null
  | bool (value : Bool)
  | number (value : Number)
  | string (value : String)
  | array (items : Items)
  | object (members : Members)
  /-- A value that cannot be decoded.  `skipped` is the fault that remains if it is skipped. -/
  | faulty (decoded : Fault) (skipped : Option Fault)

/-- The items of an array. -/
inductive Items where
  | done
  /-- Neither a comma nor the closing bracket follows. -/
  | cut (fault : Fault)
  | more (first : Node) (rest : Items)

/-- The members of an object. -/
inductive Members where
  | done
  /-- Neither a comma nor the closing brace follows. -/
  | cut (fault : Fault)
  /-- No proper key stands in the place of a key. -/
  | badKey (decoded skipped : Fault)
  /-- A member.  The key is `none` if it cannot be decoded. -/
  | more (key : Option String) (value : Node) (rest : Members)

end

instance : Inhabited Node := ⟨.null⟩

/-! ## Skipping -/

mutual

/-- The first fault that is met when a value is skipped. -/
def Node.skip : Node → Option Fault
  | .array items => items.skip
  | .object members => members.skip
  | .faulty _ skipped => skipped
  | _ => none

/-- The first fault that is met when the items of an array are skipped. -/
def Items.skip : Items → Option Fault
  | .done => none
  | .cut fault => some fault
  | .more first rest => first.skip.or rest.skip

/-- The first fault that is met when the members of an object are skipped. -/
def Members.skip : Members → Option Fault
  | .done => none
  | .cut fault => some fault
  | .badKey _ skipped => some skipped
  | .more _ value rest => value.skip.or rest.skip

end

/-! ## Values as trees -/

mutual

/-- The tree of a value that is in memory. -/
def toNode : Json → Node
  | null => .null
  | bool value => .bool value
  | number value => .number value
  | string value => .string value
  | array items => .array (itemsToNode items)
  | object members => .object (membersToNode members)

/-- The trees of the items of an array. -/
def itemsToNode : List Json → Items
  | [] => .done
  | item :: rest => .more item.toNode (itemsToNode rest)

/-- The trees of the members of an object. -/
def membersToNode : List (String × Json) → Members
  | [] => .done
  | (key, value) :: rest => .more (some key) value.toNode (membersToNode rest)

end

/-! ## Problems -/

/-- The kind of a value, as a message names it. -/
inductive Kind where
  | null
  | bool (value : Bool)
  | number (value : Number)
  | string (value : String)
  | sequence
  | map

/-- The words for a kind of value. -/
def Kind.describe : Kind → String
  | null => "null"
  | bool value => s!"boolean `{value}`"
  | number n@(.integer _ _) => s!"integer `{String.ofList n.text}`"
  | number n@(.double _) => s!"floating point `{String.ofList n.text}`"
  | string value => s!"string {Text.quotation value}"
  | sequence => "sequence"
  | map => "map"

/-- A value does not have the form that is wanted. -/
inductive Mismatch where
  | wrongType (found : Kind) (wanted : String)
  | wrongValue (found : Kind) (wanted : String)
  | missingField (name : String)
  | repeatedField (name : String)
  | wrongLength (length : Nat) (wanted : String)
  /-- An array has more items than are wanted. -/
  | tooManyItems (length : Nat)
  | unknownVariant (name : String) (known : List String)
  | noVariant (type : String)

/-- The names, each between back quotes, as a message lists two of them or more. -/
def listNames (names : List String) : String :=
  let quoted := names.map fun name => s!"`{name}`"
  match quoted with
  | [a, b] => s!"{a} or {b}"
  | _ => "one of " ++ ", ".intercalate quoted

/-- The message for a value that does not have the form that is wanted. -/
def Mismatch.message : Mismatch → String
  | wrongType found wanted => s!"invalid type: {found.describe}, expected {wanted}"
  | wrongValue found wanted => s!"invalid value: {found.describe}, expected {wanted}"
  | missingField name => s!"missing field `{name}`"
  | repeatedField name => s!"duplicate field `{name}`"
  | wrongLength length wanted => s!"invalid length {length}, expected {wanted}"
  | tooManyItems length => s!"invalid length {length}, expected fewer elements in array"
  | unknownVariant name known => s!"unknown variant `{name}`, expected {listNames known}"
  | noVariant type => s!"data did not match any variant of untagged enum {type}"

/-- Why decoding fails. -/
inductive DecodeError where
  | text (fault : Fault)
  | data (mismatch : Mismatch)

/-- The kind of a value, or its fault. -/
def Node.kind : Node → Except DecodeError Kind
  | .null => .ok .null
  | .bool value => .ok (.bool value)
  | .number value => .ok (.number value)
  | .string value => .ok (.string value)
  | .array _ => .ok .sequence
  | .object _ => .ok .map
  | .faulty decoded _ => .error (.text decoded)

/-- The problem of a value that does not have the wanted type. -/
def Node.mismatch (node : Node) (wanted : String) : DecodeError :=
  match node.kind with
  | .ok found => .data (.wrongType found wanted)
  | .error e => e

end CompositeBuild.Json
