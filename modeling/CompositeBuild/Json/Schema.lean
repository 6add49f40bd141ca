/-
# JSON schemas

The schema of a record lists its fields in the order of their names, and the names of the required
ones in the order of the record.  Records refer to each other by name.
-/
import CompositeBuild.Json.Value

namespace CompositeBuild.Json

/-! ## Shapes -/

/-- The shape of a value. -/
inductive Shape where
  | text
  | bool
  | optionalText
  /-- A list, or a set if its items do not repeat. -/
  | list (distinct : Bool) (item : Shape)
  | map (value : Shape)
  | record (name : String)
  | optionalRecord (name : String)

namespace Shape

/-- The member that refers to a record. -/
def reference (name : String) : String × Json := ("$ref", .string s!"#/$defs/{name}")

/-- The members of a schema that stand for a shape, with others between its type and what refines
the type. -/
def membersAround (between : List (String × Json)) : Shape → List (String × Json)
  | text => ("type", .string "string") :: between
  | bool => ("type", .string "boolean") :: between
  | optionalText => ("type", strings ["string", "null"]) :: between
  | list distinct item =>
    [("type", .string "array")] ++ between ++
      [("items", .object (item.membersAround []))] ++
      optionalMember "uniqueItems" (if distinct then some (.bool true) else none)
  | map value =>
    [("type", .string "object")] ++ between ++
      [("additionalProperties", .object (value.membersAround []))]
  | record name => reference name :: between
  | optionalRecord name =>
    ("anyOf",
      .array [.object [reference name], .object [("type", .string "null")]]) :: between

end Shape

/-! ## Records -/

/-- When a field may be absent. -/
inductive Presence where
  | required
  | optional
  | defaulted (value : Json)

/-- The schema of a field. -/
structure FieldSchema where
  name : String
  presence : Presence
  shape : Shape
  description : Option String

namespace FieldSchema

/-- The field has to be present. -/
def isRequired (f : FieldSchema) : Bool :=
  match f.presence with
  | .required => true
  | _ => false

/-- The default of a field. -/
def default? (f : FieldSchema) : Option Json :=
  match f.presence with
  | .defaulted value => some value
  | _ => none

/-- The JSON form of the schema of a field. -/
def toJson (f : FieldSchema) : Json :=
  .object <|
    optionalMember "description" (f.description.map .string) ++
    f.shape.membersAround (optionalMember "default" f.default?)

end FieldSchema

/-- The schema of a record. -/
structure RecordSchema where
  name : String
  description : String
  fields : List FieldSchema

namespace RecordSchema

/-- The members that describe a record. -/
def members (r : RecordSchema) : List (String × Json) :=
  let required := (r.fields.filter FieldSchema.isRequired).map FieldSchema.name
  let properties := r.fields.foldl (fun ms f => setMember f.name f.toJson ms) []
  [("description", .string r.description), ("type", .string "object"),
    ("properties", .object properties)] ++
    optionalMember "required" (if required.isEmpty then none else some (strings required))

/-- The schema of a document that holds a record, which refers to the other records by name. -/
def document (r : RecordSchema) (others : List RecordSchema) : Json :=
  let definitions := others.foldl (fun ms o => setMember o.name (.object o.members) ms) []
  .object <|
    [("$schema", .string "https://json-schema.org/draft/2020-12/schema"),
      ("title", .string r.name)] ++
    r.members ++ [("$defs", .object definitions)]

end RecordSchema

end CompositeBuild.Json
