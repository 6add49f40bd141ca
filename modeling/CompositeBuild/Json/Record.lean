/-
# Decoding records

A record is decoded from an object, with its fields in any order and other members skipped, or from
an array of its fields in their order.

In an object every field may stand once.  A field that is absent has the value that its description
gives, or is missing; missing fields are reported at the end of the object, the first in the order
of the description.  An array may end before fields at its end that have a default.
-/
import CompositeBuild.Json.Decoder

namespace CompositeBuild.Json

/-! ## Descriptions of fields -/

/-- The description of a field: its name, how it is decoded, and the values it has when it is absent
from an object and when an array ends before it. -/
structure Field (α : Type) where
  name : String
  decode : Node → Except DecodeError α
  inObject : Option α
  inArray : Option α

namespace Field

/-- A field that has to be present. -/
def required {α : Type} (name : String) (decode : Node → Except DecodeError α) : Field α :=
  ⟨name, decode, none, none⟩

/-- A field with a default. -/
def defaulted {α : Type} (name : String) (default : α) (decode : Node → Except DecodeError α) :
    Field α :=
  ⟨name, decode, some default, some default⟩

/-- Decodes null as no value. -/
def orNull {α : Type} (decode : Node → Except DecodeError α) : Node → Except DecodeError (Option α)
  | .null => .ok none
  | node => do return some (← decode node)

/-- A field that may be null or absent. -/
def optional {α : Type} (name : String) (decode : Node → Except DecodeError α) :
    Field (Option α) :=
  defaulted name none (orNull decode)

/-- A field that may be null, and may be absent from an object but not from an array. -/
def nullable {α : Type} (name : String) (decode : Node → Except DecodeError α) :
    Field (Option α) :=
  ⟨name, orNull decode, some none, none⟩

end Field

/-- The descriptions of the fields of a record, in order. -/
inductive Fields : List Type → Type 1 where
  | nil : Fields []
  | cons {α : Type} {αs : List Type} (field : Field α) (rest : Fields αs) : Fields (α :: αs)

/-- The values of the fields of a record. -/
def Values : List Type → Type
  | [] => Unit
  | α :: αs => α × Values αs

/-- The values of the fields that have been met so far. -/
def Slots : List Type → Type
  | [] => Unit
  | α :: αs => Option α × Slots αs

namespace Fields

/-- The number of fields. -/
def count {αs : List Type} : Fields αs → Nat
  | nil => 0
  | cons _ rest => rest.count + 1

/-! ## Objects -/

/-- No field has been met. -/
def noneMet {αs : List Type} : Fields αs → Slots αs
  | nil => ()
  | cons _ rest => (none, rest.noneMet)

/-- Skips a value. -/
def skip (node : Node) : Except DecodeError Unit :=
  match node.skip with
  | some fault => .error (.text fault)
  | none => .ok ()

/-- Takes up a member of an object.  A member that is no field is skipped. -/
def meet {αs : List Type} (key : String) (value : Node) :
    Fields αs → Slots αs → Except DecodeError (Slots αs)
  | nil, slots => do
    skip value
    return slots
  | cons field rest, (slot, slots) =>
    if key = field.name then
      match slot with
      | some _ => .error (.data (.repeatedField field.name))
      | none => do return (some (← field.decode value), slots)
    else do
      return (slot, ← rest.meet key value slots)

/-- Takes up the members of an object. -/
def meetAll {αs : List Type} (fields : Fields αs) :
    Members → Slots αs → Except DecodeError (Slots αs)
  | .done, slots => .ok slots
  | .cut fault, _ => .error (.text fault)
  | .badKey decoded _, _ => .error (.text decoded)
  | .more none _ _, _ => .error (.text .malformed)
  | .more (some key) value rest, slots => do
    let slots ← fields.meet key value slots
    fields.meetAll rest slots

/-- The values of the fields at the end of an object. -/
def settle {αs : List Type} : Fields αs → Slots αs → Except DecodeError (Values αs)
  | nil, _ => .ok ()
  | cons field rest, (slot, slots) =>
    match slot.or field.inObject with
    | some value => do return (value, ← rest.settle slots)
    | none => .error (.data (.missingField field.name))

/-- Decodes the members of an object. -/
def ofMembers {αs : List Type} (fields : Fields αs) (members : Members) :
    Except DecodeError (Values αs) := do
  fields.settle (← fields.meetAll members fields.noneMet)

/-! ## Arrays -/

/-- Decodes as many items of an array as there are fields, and gives the items that are left.
`index` is the number of items before, and `wanted` says what the array stands for. -/
def takeItems {αs : List Type} (wanted : String) :
    Nat → Fields αs → Items → Except DecodeError (Values αs × Items)
  | _, nil, items => .ok ((), items)
  | _, cons _ _, .cut fault => .error (.text fault)
  | index, cons field rest, .done =>
    match field.inArray with
    | some value => do
      let (values, left) ← rest.takeItems wanted (index + 1) .done
      return ((value, values), left)
    | none => .error (.data (.wrongLength index wanted))
  | index, cons field rest, .more first items => do
    let value ← field.decode first
    let (values, left) ← rest.takeItems wanted (index + 1) items
    return ((value, values), left)

end Fields

/-- The number of items of an array, up to a fault. -/
def Items.length : Items → Nat
  | .done => 0
  | .cut _ => 0
  | .more _ rest => rest.length + 1

/-- Nothing may be left of an array of the given length. -/
def Items.expectDone (length : Nat) : Items → Except DecodeError Unit
  | .done => .ok ()
  | .cut fault => .error (.text fault)
  | .more _ _ => .error (.data (.tooManyItems length))

namespace Fields

/-- Decodes the items of an array. -/
def ofItems {αs : List Type} (wanted : String) (fields : Fields αs) (items : Items) :
    Except DecodeError (Values αs) := do
  let (values, left) ← fields.takeItems wanted 0 items
  left.expectDone items.length
  return values

end Fields

/-! ## Records -/

/-- Decodes a record of the given type name in a place where at least one level may be opened. -/
def record {αs : List Type} {σ : Type} (type : String) (fields : Fields αs)
    (build : Values αs → σ) : Node → Except DecodeError σ
  | .object members => do return build (← fields.ofMembers members)
  | .array items => do
    return build (← fields.ofItems s!"struct {type} with {fields.count} elements" items)
  | node => .error (node.mismatch s!"struct {type}")

/-- The problem of a record in a place where no level may be opened. -/
def noRoom {σ : Type} (type : String) : Node → Except DecodeError σ
  | .object _ => .error (.text .malformed)
  | .array _ => .error (.text .malformed)
  | node => .error (node.mismatch s!"struct {type}")

/-- Decodes a record whose fields are described for the number of levels that remain below it. -/
def Decoder.record {αs : List Type} {σ : Type} (type : String) (fields : Nat → Fields αs)
    (build : Values αs → σ) : Decoder σ
  | 0 => noRoom type
  | room + 1 => Json.record type (fields room) build

/-- Decodes an array of two items. -/
def Decoder.pair {α β : Type} (first : Decoder α) (second : Decoder β) : Decoder (α × β)
  | 0, .array _ => .error (.text .malformed)
  | room + 1, .array items => do
    let fields : Fields [α, β] :=
      .cons (.required "0" (first room)) (.cons (.required "1" (second room)) .nil)
    let (a, b, _) ← fields.ofItems "a tuple of size 2" items
    return (a, b)
  | _, node => .error (node.mismatch "a tuple of size 2")

end CompositeBuild.Json
