/-
# What decoded values are made of

Where decoding succeeds, it has succeeded for every part: each item of a decoded list comes from a
node one level below (`Decoder.list_eq_ok`), and so does each entry of a decoded map
(`Decoder.entries_eq_ok`).  Each field of a decoded record comes from such a node or is the value of
an absent field (`Decoder.record_eq_ok`), whether the record stood in an object or in an array.
These nodes are inside the node that is decoded, so what holds of all nodes inside it holds of them.
-/
import CompositeBuild.Proofs.Json.Decoding

namespace CompositeBuild.Json

/-! ## Computations that succeed -/

section Success

variable {α β : Type} {x : Except DecodeError α} {a : α} {b : β}

/-- A computation in two steps gives what the second step gives for the value of the first. -/
theorem bind_eq_ok {f : α → Except DecodeError β} :
    (x >>= f) = .ok b ↔ ∃ a, x = .ok a ∧ f a = .ok b := by
  cases x with
  | error e => exact ⟨nofun, fun ⟨a, ha, _⟩ => nomatch ha⟩
  | ok a => exact ⟨fun h => ⟨a, rfl, h⟩, fun ⟨a', ha, h⟩ => by cases ha; exact h⟩

theorem map_eq_ok {f : α → β} : (do return f (← x)) = .ok b ↔ ∃ a, x = .ok a ∧ f a = b := by
  rw [bind_eq_ok]
  exact exists_congr fun a => and_congr_right fun _ => ⟨Except.ok.inj, congrArg Except.ok⟩

/-- A computation that gives a value if it is asked for one gives that value. -/
theorem eq_ok_of_toOption (h : x.toOption = some a) : x = .ok a := by
  cases x with
  | error e => exact nomatch h
  | ok a' => rw [Option.some.inj h]

end Success

/-! ## Nodes inside nodes -/

/-- All items have the property. -/
def Items.Each (P : Node → Prop) : Items → Prop
  | .more first rest => P first ∧ rest.Each P
  | .done | .cut _ => True

/-- The values of all members have the property. -/
def Members.Each (P : Node → Prop) : Members → Prop
  | .more _ value rest => P value ∧ rest.Each P
  | .done | .cut _ | .badKey _ _ => True

/-- All nodes that stand directly inside have the property. -/
def Node.Each (P : Node → Prop) : Node → Prop
  | .array items => items.Each P
  | .object members => members.Each P
  | .null | .bool _ | .number _ | .string _ | .faulty _ _ => True

/-- Nothing is asked of the items if nothing is asked of a node. -/
theorem Items.each_true : ∀ items : Items, items.Each fun _ => True
  | .done | .cut _ => trivial
  | .more _ rest => ⟨trivial, rest.each_true⟩

/-- Nothing is asked of the members if nothing is asked of a node. -/
theorem Members.each_true : ∀ members : Members, members.Each fun _ => True
  | .done | .cut _ | .badKey _ _ => trivial
  | .more _ _ rest => ⟨trivial, rest.each_true⟩

/-- Nothing is asked of the nodes inside if nothing is asked of a node. -/
theorem Node.each_true (node : Node) : node.Each fun _ => True := by
  cases node with
  | array items => exact items.each_true
  | object members => exact members.each_true
  | null | bool | number | string | faulty => trivial

section Parts

variable {P : Node → Prop}

/-! ## Fields -/

/-- What a field can be: the decoded value of a node with the property, or the value it has where it
is absent. -/
inductive Field.Yields {α : Type} (P : Node → Prop) (field : Field α) (a : α) : Prop
  | decoded {node : Node} (hnode : P node) (h : field.decode node = .ok a)
  | inObject (h : field.inObject = some a)
  | inArray (h : field.inArray = some a)

namespace Field

variable {α : Type} {name : String} {decode : Node → Except DecodeError α}

/-- A required field is a decoded value. -/
theorem yields_required {a : α} (h : (required name decode).Yields P a) :
    ∃ node, P node ∧ decode node = .ok a := by
  cases h with
  | decoded hnode h => exact ⟨_, hnode, h⟩
  | inObject h => exact nomatch h
  | inArray h => exact nomatch h

/-- A field with a default is that default or a decoded value. -/
theorem yields_defaulted {default a : α} (h : (defaulted name default decode).Yields P a) :
    a = default ∨ ∃ node, P node ∧ decode node = .ok a := by
  cases h with
  | decoded hnode h => exact .inr ⟨_, hnode, h⟩
  | inObject h => exact .inl (Option.some.inj h).symm
  | inArray h => exact .inl (Option.some.inj h).symm

/-- A value where null is allowed is a decoded value. -/
theorem orNull_eq_some {node : Node} {a : α} (h : orNull decode node = .ok (some a)) :
    decode node = .ok a := by
  cases node with
  | null => exact nomatch h
  | bool | number | string | array | object | faulty =>
    obtain ⟨a', ha', heq⟩ := map_eq_ok.1 h
    cases heq
    exact ha'

/-- The value of an optional field is a decoded value. -/
theorem yields_optional {a : α} (h : (optional name decode).Yields P (some a)) :
    ∃ node, P node ∧ decode node = .ok a := by
  rcases yields_defaulted h with heq | ⟨node, hnode, ha⟩
  · exact nomatch heq
  · exact ⟨node, hnode, orNull_eq_some ha⟩

end Field

namespace Fields

/-- Every field is one of the things that it can be. -/
def Yield (P : Node → Prop) : {αs : List Type} → Fields αs → Values αs → Prop
  | _, nil, _ => True
  | _, cons field rest, (a, values) => field.Yields P a ∧ rest.Yield P values

/-! ### Objects -/

/-- Every field that has been met holds a decoded value.  Each member of an object keeps this. -/
def Met (P : Node → Prop) : {αs : List Type} → Fields αs → Slots αs → Prop
  | _, nil, _ => True
  | _, cons field rest, (slot, slots) =>
    (∀ a ∈ slot, ∃ node, P node ∧ field.decode node = .ok a) ∧ rest.Met P slots

/-- At the start of an object no field has been met. -/
theorem met_noneMet {αs : List Type} (fields : Fields αs) : fields.Met P fields.noneMet := by
  induction fields with
  | nil => trivial
  | cons field rest ih => exact ⟨nofun, ih⟩

/-- A member adds a decoded value, if it adds anything. -/
theorem met_meet {αs : List Type} {fields : Fields αs} {key : String} {value : Node}
    {slots slots' : Slots αs} (hvalue : P value) (h : fields.meet key value slots = .ok slots')
    (hmet : fields.Met P slots) : fields.Met P slots' := by
  induction fields with
  | nil => trivial
  | cons field rest ih =>
    obtain ⟨slot, slots⟩ := slots
    obtain ⟨hslot, hslots⟩ := hmet
    by_cases hkey : key = field.name
    · subst hkey
      cases slot with
      | some a => rw [meet_name_again] at h; exact nomatch h
      | none =>
        rw [meet_name] at h
        obtain ⟨a, ha, rfl⟩ := map_eq_ok.1 h
        exact ⟨fun a' ha' => ⟨value, hvalue, by rw [ha, Option.mem_some.1 ha']⟩, hslots⟩
    · rw [meet_of_ne hkey] at h
      obtain ⟨slots'', hmeet, rfl⟩ := map_eq_ok.1 h
      exact ⟨hslot, ih hmeet hslots⟩

/-- Members add decoded values. -/
theorem met_meetAll {αs : List Type} {fields : Fields αs} {slots' : Slots αs} :
    ∀ {members : Members} {slots : Slots αs}, members.Each P →
      fields.meetAll members slots = .ok slots' → fields.Met P slots → fields.Met P slots'
  | .done, _, _, h, hmet => Except.ok.inj h ▸ hmet
  | .cut _, _, _, h, _ | .badKey _ _, _, _, h, _ | .more none _ _, _, _, h, _ => nomatch h
  | .more (some key) value rest, slots, hmembers, h, hmet => by
    rw [meetAll] at h
    obtain ⟨between, hmeet, hrest⟩ := bind_eq_ok.1 h
    exact met_meetAll hmembers.2 hrest (met_meet hmembers.1 hmeet hmet)

/-- At the end of an object every field is one of the things that it can be. -/
theorem yield_settle {αs : List Type} {fields : Fields αs} {slots : Slots αs} {values : Values αs}
    (h : fields.settle slots = .ok values) (hmet : fields.Met P slots) : fields.Yield P values := by
  induction fields with
  | nil => trivial
  | cons field rest ih =>
    obtain ⟨slot, slots⟩ := slots
    obtain ⟨hslot, hslots⟩ := hmet
    cases ha : slot.or field.inObject with
    | none =>
      rw [settle, ha] at h
      cases h
    | some a =>
      rw [settle, ha] at h
      obtain ⟨values', hsettle, rfl⟩ := map_eq_ok.1 h
      refine ⟨?_, ih hsettle hslots⟩
      cases slot with
      | some a' =>
        obtain ⟨node, hnode, hdecode⟩ := hslot a' rfl
        exact .decoded hnode (Option.some.inj ha ▸ hdecode)
      | none => exact .inObject ha

/-- The fields of an object are what they can be. -/
theorem yield_ofMembers {αs : List Type} {fields : Fields αs} {members : Members}
    {values : Values αs} (hmembers : members.Each P) (h : fields.ofMembers members = .ok values) :
    fields.Yield P values := by
  obtain ⟨slots, hslots, hsettle⟩ := bind_eq_ok.1 h
  exact yield_settle hsettle (met_meetAll hmembers hslots fields.met_noneMet)

/-! ### Arrays -/

/-- The fields that are taken from an array are what they can be. -/
theorem yield_takeItems {αs : List Type} {fields : Fields αs} {wanted : String} {index : Nat}
    {items left : Items} {values : Values αs} (hitems : items.Each P)
    (h : fields.takeItems wanted index items = .ok (values, left)) : fields.Yield P values := by
  induction fields generalizing index items with
  | nil => trivial
  | cons field rest ih =>
    cases items with
    | cut fault => exact nomatch h
    | done =>
      cases ha : field.inArray with
      | none =>
        rw [takeItems, ha] at h
        exact nomatch h
      | some a =>
        rw [takeItems, ha] at h
        obtain ⟨⟨values', left'⟩, hrest, heq⟩ := bind_eq_ok.1 h
        cases heq
        have hdone : Items.done.Each P := trivial
        exact ⟨.inArray ha, ih hdone hrest⟩
    | more first items =>
      rw [takeItems] at h
      obtain ⟨a, ha, h⟩ := bind_eq_ok.1 h
      obtain ⟨⟨values', left'⟩, hrest, heq⟩ := bind_eq_ok.1 h
      cases heq
      exact ⟨.decoded hitems.1 ha, ih hitems.2 hrest⟩

/-- The fields of an array are what they can be. -/
theorem yield_ofItems {αs : List Type} {fields : Fields αs} {wanted : String} {items : Items}
    {values : Values αs} (hitems : items.Each P) (h : fields.ofItems wanted items = .ok values) :
    fields.Yield P values := by
  obtain ⟨⟨values', left⟩, htake, h⟩ := bind_eq_ok.1 h
  obtain ⟨-, -, heq⟩ := bind_eq_ok.1 h
  cases heq
  exact yield_takeItems hitems htake

end Fields

/-! ## Records -/

/-- The fields of a decoded record are what they can be. -/
theorem record_eq_ok {αs : List Type} {σ : Type} {type : String} {fields : Fields αs}
    {build : Values αs → σ} {node : Node} {s : σ} (hnode : node.Each P)
    (h : record type fields build node = .ok s) :
    ∃ values, fields.Yield P values ∧ build values = s := by
  cases node with
  | object members =>
    obtain ⟨values, hvalues, hs⟩ := map_eq_ok.1 h
    exact ⟨values, Fields.yield_ofMembers hnode hvalues, hs⟩
  | array items =>
    obtain ⟨values, hvalues, hs⟩ := map_eq_ok.1 h
    exact ⟨values, Fields.yield_ofItems hnode hvalues, hs⟩
  | null | bool | number | string | faulty => exact nomatch h

/-- No record is decoded where no level may be opened. -/
theorem noRoom_ne_ok {σ : Type} {type : String} {node : Node} {s : σ} :
    noRoom type node ≠ .ok s := by
  cases node <;> exact nofun

namespace Decoder

/-- **A decoded record opens a level, and its fields are what they can be below.** -/
theorem record_eq_ok {αs : List Type} {σ : Type} {type : String} {fields : Nat → Fields αs}
    {build : Values αs → σ} {room : Nat} {node : Node} {s : σ} (hnode : node.Each P)
    (h : record type fields build room node = .ok s) :
    ∃ below values, room = below + 1 ∧ (fields below).Yield P values ∧ build values = s := by
  cases room with
  | zero => exact absurd h noRoom_ne_ok
  | succ below =>
    obtain ⟨values, hvalues, hs⟩ := Json.record_eq_ok hnode h
    exact ⟨below, values, rfl, hvalues, hs⟩

/-! ## Lists and maps -/

variable {α : Type} {a : α} {as : List α} {entries : List (String × α)}

/-- Every decoded item comes from a node. -/
theorem items_eq_ok {decode : Node → Except DecodeError α} :
    ∀ {nodes : Items} {as : List α}, nodes.Each P → items decode nodes = .ok as →
      ∀ a ∈ as, ∃ node, P node ∧ decode node = .ok a
  | .done, _, _, h, _, ha => absurd ha (Except.ok.inj h ▸ List.not_mem_nil)
  | .cut _, _, _, h, _, _ => nomatch h
  | .more first rest, _, hnodes, h, a, ha => by
    rw [items] at h
    obtain ⟨a', ha', h⟩ := bind_eq_ok.1 h
    obtain ⟨as', has', rfl⟩ := map_eq_ok.1 h
    rcases List.mem_cons.1 ha with rfl | ha
    · exact ⟨first, hnodes.1, ha'⟩
    · exact items_eq_ok hnodes.2 has' a ha

/-- **A decoded list opens a level, and every item is decoded below.** -/
theorem list_eq_ok {decode : Decoder α} {room : Nat} {node : Node} (hnode : node.Each P)
    (h : list decode room node = .ok as) :
    ∃ below, room = below + 1 ∧ ∀ a ∈ as, ∃ node, P node ∧ decode below node = .ok a := by
  cases room with
  | zero => cases node <;> exact nomatch h
  | succ below =>
    cases node with
    | array nodes => exact ⟨below, rfl, items_eq_ok hnode h⟩
    | null | bool | number | string | object | faulty => exact nomatch h

/-- Every decoded member comes from a node. -/
theorem members_eq_ok {decode : Node → Except DecodeError α} :
    ∀ {nodes : Members} {entries : List (String × α)}, nodes.Each P →
      members decode nodes = .ok entries →
        ∀ entry ∈ entries, ∃ node, P node ∧ decode node = .ok entry.2
  | .done, _, _, h, _, hentry => absurd hentry (Except.ok.inj h ▸ List.not_mem_nil)
  | .cut _, _, _, h, _, _ | .badKey _ _, _, _, h, _, _ | .more none _ _, _, _, h, _, _ => nomatch h
  | .more (some key) value rest, _, hnodes, h, entry, hentry => by
    rw [members] at h
    obtain ⟨a, ha, h⟩ := bind_eq_ok.1 h
    obtain ⟨entries', hentries', rfl⟩ := map_eq_ok.1 h
    rcases List.mem_cons.1 hentry with rfl | hentry
    · exact ⟨value, hnodes.1, ha⟩
    · exact members_eq_ok hnodes.2 hentries' entry hentry

/-- **A decoded map opens a level, and the value of every entry is decoded below.** -/
theorem entries_eq_ok {decode : Decoder α} {room : Nat} {node : Node} (hnode : node.Each P)
    (h : Decoder.entries decode room node = .ok entries) :
    ∃ below, room = below + 1 ∧
      ∀ entry ∈ entries, ∃ node, P node ∧ decode below node = .ok entry.2 := by
  cases room with
  | zero => cases node <;> exact nomatch h
  | succ below =>
    cases node with
    | object nodes => exact ⟨below, rfl, members_eq_ok hnode h⟩
    | null | bool | number | string | array | faulty => exact nomatch h

/-! ## Texts -/

/-- What is decoded from a text is decoded from the tree of the text, where as many levels may be
opened as in a text. -/
theorem eq_ok_of_fromText_eq_ok {decode : Decoder α} {text : String}
    (h : decode.fromText text = .ok a) : decode textRoom (readText text.toList).1 = .ok a := by
  unfold fromText fromChars at h
  dsimp only at h
  split at h
  · exact nomatch h
  · rename_i a' ha'
    split at h
    · rw [ha', h]
    · exact nomatch h

end Decoder

end Parts

end CompositeBuild.Json
