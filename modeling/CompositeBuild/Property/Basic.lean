/-
# Captured properties

The value of a task property as it was captured on the host: a plain value, or the reason why there
is none.  In JSON the keys `error`, `unresolved` and `files` of an object are reserved for captured
failures and file collections.
-/
import CompositeBuild.Collection.InsertionMap
import CompositeBuild.Json.Record

namespace CompositeBuild

/-! ## Properties -/

/-- A captured property. -/
inductive Property where
  /-- The property exists and holds no value. -/
  | absent
  /-- Reading the property failed on the host. -/
  | failed (reason : String)
  /-- A file collection that could not be resolved. -/
  | unresolved (reason : String)
  | files (paths : List Path)
  | text (value : String)
  | bool (value : Bool)
  | number (value : Json.Number)
  | list (items : List Property)
  /-- An object with its members.  An inductive type cannot ask of its own members that their names
  are distinct, so this is said of whole properties by `NamesDistinct`. -/
  | object (members : List (String × Property))

instance : Inhabited Property := ⟨.absent⟩

namespace Property

/-! ## Properties inside properties -/

mutual

/-- The property with everything inside it, at any depth. -/
def nodes : Property → List Property
  | list items => list items :: nodesOfItems items
  | object members => object members :: nodesOfMembers members
  | other => [other]

/-- The items of a list with everything inside them. -/
def nodesOfItems : List Property → List Property
  | [] => []
  | item :: rest => item.nodes ++ nodesOfItems rest

/-- The values of the members of an object with everything inside them. -/
def nodesOfMembers : List (String × Property) → List Property
  | [] => []
  | (_, value) :: rest => value.nodes ++ nodesOfMembers rest

end

section Nodes

variable {Q : Property → Prop}

/-- What holds of everything in a list holds of the list and of everything in its items. -/
theorem forall_mem_nodes_list {items : List Property} :
    (∀ q ∈ (list items).nodes, Q q) ↔ Q (list items) ∧ ∀ item ∈ items, ∀ q ∈ item.nodes, Q q := by
  have hitems : (∀ q ∈ nodesOfItems items, Q q) ↔ ∀ item ∈ items, ∀ q ∈ item.nodes, Q q := by
    induction items with
    | nil => simp [nodesOfItems]
    | cons item rest ih => rw [nodesOfItems, List.forall_mem_append, ih, List.forall_mem_cons]
  rw [nodes, List.forall_mem_cons, hitems]

/-- What holds of everything in an object holds of the object and of everything in its values. -/
theorem forall_mem_nodes_object {members : List (String × Property)} :
    (∀ q ∈ (object members).nodes, Q q) ↔
      Q (object members) ∧ ∀ member ∈ members, ∀ q ∈ member.2.nodes, Q q := by
  have hmembers : (∀ q ∈ nodesOfMembers members, Q q) ↔
      ∀ member ∈ members, ∀ q ∈ member.2.nodes, Q q := by
    induction members with
    | nil => simp [nodesOfMembers]
    | cons member rest ih => rw [nodesOfMembers, List.forall_mem_append, ih, List.forall_mem_cons]
  rw [nodes, List.forall_mem_cons, hmembers]

end Nodes

/-- The names of the members are distinct, if the property is an object. -/
def HasDistinctNames : Property → Prop
  | object members => (members.map (·.1)).Nodup
  | _ => True

instance : DecidablePred HasDistinctNames := fun p =>
  match p with
  | object members => inferInstanceAs (Decidable (members.map (·.1)).Nodup)
  | absent | failed _ | unresolved _ | files _ | text _ | bool _ | number _ | list _ =>
    .isTrue trivial

/-- Every object in the property, at any depth, has distinct names for its members. -/
def NamesDistinct (p : Property) : Prop := ∀ q ∈ p.nodes, q.HasDistinctNames

instance : DecidablePred NamesDistinct := fun p =>
  inferInstanceAs (Decidable (∀ q ∈ p.nodes, q.HasDistinctNames))

/-- The names in a list are distinct exactly if they are in each item. -/
theorem namesDistinct_list_iff {items : List Property} :
    (list items).NamesDistinct ↔ ∀ item ∈ items, item.NamesDistinct :=
  forall_mem_nodes_list.trans (and_iff_right trivial)

/-- The names in an object are distinct exactly if its own are, and those in each value. -/
theorem namesDistinct_object_iff {members : List (String × Property)} :
    (object members).NamesDistinct ↔
      (members.map (·.1)).Nodup ∧ ∀ member ∈ members, member.2.NamesDistinct :=
  forall_mem_nodes_object

theorem namesDistinct_empty : (object []).NamesDistinct := by decide

/-- Setting a member of an object keeps the names in it distinct, if those in the value are. -/
theorem NamesDistinct.putEntry {members : List (String × Property)} {value : Property}
    (h : (object members).NamesDistinct) (hvalue : value.NamesDistinct) (name : String) :
    (object (putEntry name value members)).NamesDistinct := by
  obtain ⟨hnames, hvalues⟩ := namesDistinct_object_iff.1 h
  refine namesDistinct_object_iff.2 ⟨nodup_putEntry hnames name value, fun member hmember => ?_⟩
  rcases mem_putEntry hmember with rfl | hmember
  · exact hvalue
  · exact hvalues member hmember

/-! ## JSON -/

mutual

/-- The JSON form of a property. -/
def toJson : Property → Json
  | absent => .null
  | failed reason => .object [("error", .string reason)]
  | unresolved reason => .object [("unresolved", .string reason)]
  | files paths => .object [("files", Json.strings (paths.map Path.text))]
  | text value => .string value
  | bool value => .bool value
  | number value => .number value
  | list items => .array (itemsToJson items)
  | object members => .object (membersToJson members)

/-- The JSON forms of the items of a list. -/
def itemsToJson : List Property → List Json
  | [] => []
  | item :: rest => item.toJson :: itemsToJson rest

/-- The JSON forms of the members of an object. -/
def membersToJson : List (String × Property) → List (String × Json)
  | [] => []
  | (name, value) :: rest => (name, value.toJson) :: membersToJson rest

end

/-- The value of a key that occurs exactly once among the members. -/
def onlyMember? (key : String) (members : List (String × Json)) : Option Json :=
  match members.filter (·.1 = key) with
  | [(_, value)] => some value
  | _ => none

/-- The text of a JSON string. -/
def textOf? : Json → Option String
  | .string s => some s
  | _ => none

/-- The paths of a JSON array of strings. -/
def pathsOf? : Json → Option (List Path)
  | .array items => items.mapM fun item => (textOf? item).map Path.mk
  | _ => none

/-- The captured failure or file collection that the members of an object stand for: the first of
the reserved keys that occurs exactly once and has a value of its form decides. -/
def reserved? (members : List (String × Json)) : Option Property :=
  (((onlyMember? "error" members).bind textOf?).map failed).or <|
  (((onlyMember? "unresolved" members).bind textOf?).map unresolved).or <|
  ((onlyMember? "files" members).bind pathsOf?).map files

mutual

/-- The property that a JSON value stands for. -/
def ofJson : Json → Property
  | .null => absent
  | .bool value => bool value
  | .number value => number value
  | .string value => text value
  | .array items => list (itemsOfJson items)
  | .object members =>
    match reserved? members with
    | some property => property
    | none => object (membersOfJson [] members)

/-- The properties that the items of an array stand for. -/
def itemsOfJson : List Json → List Property
  | [] => []
  | item :: rest => ofJson item :: itemsOfJson rest

/-- Adds the properties that the members of an object stand for: a repeated name keeps its first
place and its last value. -/
def membersOfJson (before : List (String × Property)) :
    List (String × Json) → List (String × Property)
  | [] => before
  | (name, value) :: rest => membersOfJson (putEntry name (ofJson value) before) rest

end

/-! ## Names in what JSON values stand for -/

/-- What a reserved key stands for holds no objects. -/
theorem namesDistinct_of_reserved? {members : List (String × Json)} {p : Property}
    (h : reserved? members = some p) : p.NamesDistinct := by
  simp only [reserved?, Option.or_eq_some_iff, Option.map_eq_some_iff] at h
  obtain ⟨reason, -, rfl⟩ | ⟨-, ⟨reason, -, rfl⟩ | ⟨-, paths, -, rfl⟩⟩ := h
  all_goals exact List.forall_mem_singleton.2 trivial

mutual

/-- The objects in a property that a JSON value stands for have distinct names. -/
theorem namesDistinct_ofJson : (value : Json) → (ofJson value).NamesDistinct
  | .null | .bool _ | .number _ | .string _ => by
    rw [ofJson]
    exact List.forall_mem_singleton.2 trivial
  | .array items => by
    rw [ofJson]
    exact namesDistinct_list_iff.2 (namesDistinct_itemsOfJson items)
  | .object members => by
    rw [ofJson]
    split
    case h_1 property hproperty => exact namesDistinct_of_reserved? hproperty
    case h_2 => exact namesDistinct_membersOfJson namesDistinct_empty members

/-- The objects in the items that an array stands for have distinct names. -/
theorem namesDistinct_itemsOfJson : (items : List Json) →
    ∀ item ∈ itemsOfJson items, item.NamesDistinct
  | [] => List.forall_mem_nil _
  | item :: rest => by
    rw [itemsOfJson]
    exact List.forall_mem_cons.2 ⟨namesDistinct_ofJson item, namesDistinct_itemsOfJson rest⟩

/-- Adding what members stand for keeps the names in an object distinct. -/
theorem namesDistinct_membersOfJson {before : List (String × Property)}
    (h : (object before).NamesDistinct) : (members : List (String × Json)) →
      (object (membersOfJson before members)).NamesDistinct
  | [] => by rwa [membersOfJson]
  | (name, value) :: rest => by
    rw [membersOfJson]
    exact namesDistinct_membersOfJson (h.putEntry (namesDistinct_ofJson value) name) rest

end

/-- Decodes a property.  Every JSON value stands for one. -/
def decoder : Json.Decoder Property := fun room node => do return ofJson (← node.value room)

end Property

/-! ## Property maps -/

/-- The named properties of a task or of an object. -/
abbrev PropertyMap := List (String × Property)

namespace PropertyMap

/-- The property of a name. -/
def get? (m : PropertyMap) (name : String) : Option Property := findEntry m name

/-- The map has a property of the name. -/
def has (m : PropertyMap) (name : String) : Bool := (m.get? name).isSome

/-- Sets a property. -/
def put (m : PropertyMap) (name : String) (value : Property) : PropertyMap := putEntry name value m

/-- The map of a list of properties: a repeated name keeps its first place and its last value. -/
def ofEntries (entries : List (String × Property)) : PropertyMap :=
  entries.foldl (fun m entry => m.put entry.1 entry.2) []

/-- The JSON form of a property map. -/
def toJson (m : PropertyMap) : Json := .object (Property.membersToJson m)

/-- A map of properties has distinct names, if the names in each property are distinct. -/
theorem namesDistinct_ofEntries {entries : List (String × Property)}
    (h : ∀ entry ∈ entries, entry.2.NamesDistinct) :
    (Property.object (ofEntries entries)).NamesDistinct := by
  have hstart := Property.namesDistinct_empty
  unfold ofEntries
  -- The map of the first entries is the start for the rest.
  generalize ([] : PropertyMap) = before at hstart ⊢
  induction entries generalizing before with
  | nil => exact hstart
  | cons entry rest ih =>
    obtain ⟨hentry, hrest⟩ := List.forall_mem_cons.1 h
    exact ih hrest _ (hstart.putEntry hentry entry.1)

/-- The property map that the members of a JSON object stand for. -/
def ofMembers (members : List (String × Json)) :
    { m : PropertyMap // (Property.object m).NamesDistinct } :=
  ⟨ofEntries (members.map fun member => (member.1, Property.ofJson member.2)),
    namesDistinct_ofEntries (List.forall_mem_map.2 fun member _ =>
      Property.namesDistinct_ofJson member.2)⟩

/-- Decodes a property map. -/
def decoder : Json.Decoder { m : PropertyMap // (Property.object m).NamesDistinct } :=
  fun room node => do return ofMembers (← Json.Decoder.entries Json.Decoder.value room node)

end PropertyMap

end CompositeBuild
