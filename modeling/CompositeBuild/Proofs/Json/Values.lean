/-
# Values in texts

A node is decoded as a value only if it is the tree of that value, which then nests no deeper than
levels may be opened (`Node.eq_toNode_of_value`).  So what is made of the values in a text can be
told from these values, and from the keys of the objects in the tree of the text.
-/
import CompositeBuild.Proofs.Json.Decoded

namespace CompositeBuild.Json

/-! ## Values inside values -/

/-- What holds of a value if it holds of everything inside holds of every value. -/
@[elab_as_elim] theorem nested_induction {P : Json → Prop} (null : P null) (bool : ∀ b, P (bool b))
    (number : ∀ n, P (number n)) (string : ∀ s, P (string s))
    (array : ∀ items, (∀ item ∈ items, P item) → P (array items))
    (object : ∀ members, (∀ member ∈ members, P member.2) → P (object members)) (v : Json) :
    P v := by
  cases v with
  | null => exact null
  | bool b => exact bool b
  | number n => exact number n
  | string s => exact string s
  | array items =>
    exact array items fun item _ => nested_induction null bool number string array object item
  | object members =>
    exact object members fun member _ =>
      nested_induction null bool number string array object member.2
  termination_by sizeOf v
  decreasing_by
    · have hitem := List.sizeOf_lt_of_mem ‹_ ∈ _›
      simp only [Json.array.sizeOf_spec]
      omega
    · have hmember := List.sizeOf_lt_of_mem ‹_ ∈ _›
      have hvalue : sizeOf member.2 < sizeOf member := by
        obtain ⟨key, value⟩ := member
        show sizeOf value < sizeOf (key, value)
        rw [Prod.mk.sizeOf_spec]
        omega
      simp only [Json.object.sizeOf_spec]
      omega

/-! ## Nodes that are decoded as values -/

-- The recursion is on the tree, as the decoder of values goes through it.
mutual

/-- A node that is decoded as a value is the tree of that value, and the value nests no deeper than
levels may be opened. -/
theorem Node.eq_toNode_of_value {room : Nat} {v : Json} :
    ∀ {node : Node}, node.value room = .ok v → node = v.toNode ∧ v.depth ≤ room
  | .null, h | .bool _, h | .number _, h | .string _, h => by
    rw [Node.value] at h
    cases h
    exact ⟨rfl, Nat.zero_le room⟩
  | .faulty _ _, h => by
    rw [Node.value] at h
    cases h
  | .array items, h => by
    cases room with
    | zero => exact nomatch h
    | succ room =>
      rw [Node.value] at h
      obtain ⟨values, hvalues, rfl⟩ := map_eq_ok.1 h
      obtain ⟨rfl, hdepth⟩ := Items.eq_itemsToNode_of_values hvalues
      exact ⟨rfl, Nat.succ_le_succ hdepth⟩
  | .object members, h => by
    cases room with
    | zero => exact nomatch h
    | succ room =>
      rw [Node.value] at h
      obtain ⟨values, hvalues, rfl⟩ := map_eq_ok.1 h
      obtain ⟨rfl, hdepth⟩ := Members.eq_membersToNode_of_values hvalues
      exact ⟨rfl, Nat.succ_le_succ hdepth⟩

/-- Items that are decoded as values are the trees of these values. -/
theorem Items.eq_itemsToNode_of_values {room : Nat} {values : List Json} :
    ∀ {items : Items}, items.values room = .ok values →
      items = itemsToNode values ∧ depthOfItems values ≤ room
  | .done, h => by
    cases h
    exact ⟨rfl, Nat.zero_le room⟩
  | .cut _, h => nomatch h
  | .more first rest, h => by
    rw [Items.values] at h
    obtain ⟨value, hvalue, h⟩ := bind_eq_ok.1 h
    obtain ⟨values, hvalues, rfl⟩ := map_eq_ok.1 h
    obtain ⟨rfl, hfirst⟩ := Node.eq_toNode_of_value hvalue
    obtain ⟨rfl, hrest⟩ := Items.eq_itemsToNode_of_values hvalues
    exact ⟨rfl, Nat.max_le.2 ⟨hfirst, hrest⟩⟩

/-- Members that are decoded as keys and values are the trees of these. -/
theorem Members.eq_membersToNode_of_values {room : Nat} {values : List (String × Json)} :
    ∀ {members : Members}, members.values room = .ok values →
      members = membersToNode values ∧ depthOfMembers values ≤ room
  | .done, h => by
    cases h
    exact ⟨rfl, Nat.zero_le room⟩
  | .cut _, h | .badKey _ _, h | .more none _ _, h => nomatch h
  | .more (some key) value rest, h => by
    rw [Members.values] at h
    obtain ⟨v, hv, h⟩ := bind_eq_ok.1 h
    obtain ⟨values, hvalues, rfl⟩ := map_eq_ok.1 h
    obtain ⟨rfl, hvalue⟩ := Node.eq_toNode_of_value hv
    obtain ⟨rfl, hrest⟩ := Members.eq_membersToNode_of_values hvalues
    exact ⟨rfl, Nat.max_le.2 ⟨hvalue, hrest⟩⟩

end

/-- Decoding a value and changing it at the end decodes the changed value from a text. -/
theorem Decoder.fromText_map {α β : Type} (decode : Decoder α) (f : α → β) (text : String) :
    fromText (fun room node => do return f (← decode room node)) text =
      do return f (← decode.fromText text) := by
  unfold fromText fromChars
  dsimp only
  cases decode textRoom (readText text.toList).1 with
  | error e => rfl
  | ok a =>
    show (if (readText text.toList).2.all isBlank = true then Except.ok (f a) else _) = _
    cases (readText text.toList).2.all isBlank <;> rfl

/-! ## Keys of objects -/

/-- The keys of members, as far as they can be decoded. -/
def Members.keys : Members → List String
  | .more key _ rest => key.toList ++ rest.keys
  | .done | .cut _ | .badKey _ _ => []

mutual

/-- The keys of each object in a tree, at any depth. -/
def Node.objectKeys : Node → List (List String)
  | .array items => items.objectKeys
  | .object members => members.keys :: members.objectKeys
  | _ => []

/-- The keys of each object in the items of an array. -/
def Items.objectKeys : Items → List (List String)
  | .more first rest => first.objectKeys ++ rest.objectKeys
  | _ => []

/-- The keys of each object in the values of the members of an object. -/
def Members.objectKeys : Members → List (List String)
  | .more _ value rest => value.objectKeys ++ rest.objectKeys
  | _ => []

end

/-- The keys of each object in a text, at any depth. -/
def objectKeys (text : String) : List (List String) := (readText text.toList).1.objectKeys

section Keys

variable {P : List String → Prop}

/-- The keys of the tree of an object are its keys. -/
theorem keys_membersToNode (members : List (String × Json)) :
    (membersToNode members).keys = members.map (·.1) := by
  induction members with
  | nil => rfl
  | cons member rest ih =>
    rw [membersToNode, Members.keys, ih]
    rfl

/-- What holds of the keys of all objects in an array holds of those in each item. -/
theorem forall_objectKeys_array {items : List Json} :
    (∀ keys ∈ (array items).toNode.objectKeys, P keys) ↔
      ∀ item ∈ items, ∀ keys ∈ item.toNode.objectKeys, P keys := by
  rw [toNode, Node.objectKeys]
  induction items with
  | nil => exact ⟨nofun, nofun⟩
  | cons item rest ih =>
    rw [itemsToNode, Items.objectKeys, List.forall_mem_append, ih, List.forall_mem_cons]

/-- What holds of the keys of all objects in an object holds of its keys and of those in each
value. -/
theorem forall_objectKeys_object {members : List (String × Json)} :
    (∀ keys ∈ (object members).toNode.objectKeys, P keys) ↔
      P (members.map (·.1)) ∧ ∀ member ∈ members, ∀ keys ∈ member.2.toNode.objectKeys, P keys := by
  rw [toNode, Node.objectKeys, List.forall_mem_cons, keys_membersToNode]
  refine and_congr Iff.rfl ?_
  induction members with
  | nil => exact ⟨nofun, nofun⟩
  | cons member rest ih =>
    rw [membersToNode, Members.objectKeys, List.forall_mem_append, ih, List.forall_mem_cons]

/-- What holds of the keys of all objects in the items of an array holds of those in each item. -/
theorem Items.each_of_objectKeys :
    ∀ {items : Items}, (∀ keys ∈ items.objectKeys, P keys) →
      items.Each fun node => ∀ keys ∈ node.objectKeys, P keys
  | .done, _ | .cut _, _ => trivial
  | .more _ rest, h =>
    ⟨(List.forall_mem_append.1 h).1, rest.each_of_objectKeys (List.forall_mem_append.1 h).2⟩

/-- What holds of the keys of all objects in the values of members holds of those in each value. -/
theorem Members.each_of_objectKeys :
    ∀ {members : Members}, (∀ keys ∈ members.objectKeys, P keys) →
      members.Each fun node => ∀ keys ∈ node.objectKeys, P keys
  | .done, _ | .cut _, _ | .badKey _ _, _ => trivial
  | .more _ _ rest, h =>
    ⟨(List.forall_mem_append.1 h).1, rest.each_of_objectKeys (List.forall_mem_append.1 h).2⟩

/-- What holds of the keys of all objects in a node holds of those in each node inside it. -/
theorem Node.each_of_objectKeys {node : Node} (h : ∀ keys ∈ node.objectKeys, P keys) :
    node.Each fun node => ∀ keys ∈ node.objectKeys, P keys := by
  cases node with
  | array items => exact items.each_of_objectKeys h
  | object members => exact members.each_of_objectKeys (List.forall_mem_cons.1 h).2
  | null | bool | number | string | faulty => trivial

end Keys

end CompositeBuild.Json
