/-
# Properties that come from JSON values

What a JSON value stands for is a property of a certain kind: it nests no deeper than the value
(`depth_toJson_ofJson_le`), and no object in it is confusable unless a reserved key was repeated in
the value (`forall_isConfusable_eq_false`).  So a property that has been read again once stays as it
is from then on (`forall_isConfusable_reread`).
-/
import CompositeBuild.Proofs.Property.Classification

namespace CompositeBuild.Property

open Json (Node)

variable {members : List (String × Json)} {p : Property}

/-! ## Nesting -/

/-- The JSON form of what members encode is an object with one of them. -/
theorem Encodes.exists_toJson (h : Encodes members p) :
    ∃ member ∈ members, p.toJson = .object [member] := by
  cases h with
  | failed h | unresolved _ h | files _ _ h => exact ⟨_, h.isLast.mem, by rw [toJson]⟩

/-- **A property nests no deeper than the value that stands for it.** -/
theorem depth_toJson_ofJson_le (v : Json) : (ofJson v).toJson.depth ≤ v.depth := by
  induction v using Json.nested_induction with
  | null | bool | number | string => exact Nat.zero_le _
  | array items ih =>
    have hitems := Json.depthOfItems_le_iff.1 (Nat.le_refl (Json.depthOfItems items))
    rw [ofJson, toJson, itemsToJson_eq_map, itemsOfJson_eq_map]
    refine Json.depth_map_le_iff.2 (List.forall_mem_map.2 fun item hitem => ?_)
    exact Nat.le_trans (ih item hitem) (hitems item hitem)
  | object members ih =>
    have hmembers := Json.depthOfMembers_le_iff.1 (Nat.le_refl (Json.depthOfMembers members))
    refine ofJson_object_cases members (fun q hq => ?_) fun _ => ?_
    · obtain ⟨member, hmember, hjson⟩ := hq.exists_toJson
      rw [hjson]
      exact Json.depth_object_le_iff.2 (List.forall_mem_singleton.2 (hmembers member hmember))
    · rw [toJson, membersToJson_eq_map]
      refine Json.depth_object_le_iff.2 (List.forall_mem_map.2 fun entry hentry => ?_)
      -- Only the last value of a repeated key is kept, and it is one of the values inside.
      obtain ⟨v, hv, heq⟩ := mem_membersOfJson_iff.1 hentry
      rw [← heq]
      exact Nat.le_trans (ih _ hv.mem) (hmembers _ hv.mem)

/-! ## Everything inside -/

theorem Encodes.nodes_eq (h : Encodes members p) : p.nodes = [p] := by
  cases h <;> rfl

/-- Let a condition on values pass to the values inside them, and let what any value with the
condition stands for have some property.  Then everything inside what such a value stands for has
it. -/
theorem forall_mem_nodes_ofJson {P : Json → Prop} {Q : Property → Prop}
    (harray : ∀ items, P (.array items) → ∀ item ∈ items, P item)
    (hobject : ∀ members, P (.object members) → ∀ member ∈ members, P member.2)
    (hQ : ∀ v, P v → Q (ofJson v)) {v : Json} (hv : P v) : ∀ q ∈ (ofJson v).nodes, Q q := by
  induction v using Json.nested_induction with
  | null | bool | number | string => exact List.forall_mem_singleton.2 (hQ _ hv)
  | array items ih =>
    have htop := hQ _ hv
    rw [ofJson, itemsOfJson_eq_map] at htop ⊢
    refine forall_mem_nodes_list.2 ⟨htop, List.forall_mem_map.2 fun item hitem => ?_⟩
    exact ih item hitem (harray items hv item hitem)
  | object members ih =>
    have htop := hQ _ hv
    revert htop
    refine ofJson_object_cases members (fun q hq htop => ?_) fun _ htop => ?_
    · rwa [hq.nodes_eq, List.forall_mem_singleton]
    · refine forall_mem_nodes_object.2 ⟨htop, fun entry hentry => ?_⟩
      obtain ⟨v, hv', heq⟩ := mem_membersOfJson_iff.1 hentry
      rw [← heq]
      exact ih _ hv'.mem (hobject members hv _ hv'.mem)

/-- There are no doubles in a property that a value without doubles stands for. -/
theorem forall_isDouble_eq_false {v : Json} (h : v.IsIntegral) :
    ∀ q ∈ (ofJson v).nodes, q.isDouble = false := by
  refine forall_mem_nodes_ofJson (P := Json.IsIntegral) (fun _ => Json.itemsIntegral_iff.1)
    (fun _ => Json.membersIntegral_iff.1) (fun v hv => ?_) h
  cases v with
  | null | bool | string => rfl
  | number value =>
    cases value with
    | integer value fits => rfl
    | double value => exact hv.elim
  | array items =>
    rw [ofJson]
    rfl
  | object members =>
    refine ofJson_object_cases members (fun q hq => ?_) fun _ => rfl
    cases hq <;> rfl

/-! ## Keys that are not repeated -/

/-- No object in the tree has a reserved key twice. -/
def ReservedOnce (node : Node) : Prop :=
  ∀ keys ∈ node.objectKeys, ∀ key ∈ reservedKeys, keys.count key ≤ 1

/-- Under a key that does not occur twice stands what its only value stands for. -/
theorem findEntry_membersOfJson {key : String} (h : (members.map (·.1)).count key ≤ 1) :
    findEntry (membersOfJson [] members) key = (onlyMember? key members).map ofJson := by
  have hnodup : ((membersOfJson [] members).map (·.1)).Nodup :=
    (namesDistinct_object_iff.1 (namesDistinct_membersOfJson namesDistinct_empty members)).1
  have honly (v : Json) : IsLast members key v ↔ IsOnly members key v :=
    ⟨fun hlast => hlast.isOnly h, IsOnly.isLast⟩
  refine Option.ext fun p => ?_
  rw [findEntry_eq_some_iff hnodup, mem_membersOfJson_iff, Option.map_eq_some_iff]
  simp only [honly, onlyMember?_eq_some_iff]

/-- A value stands for a text exactly if it is a string. -/
theorem isText_ofJson (v : Json) : (ofJson v).isText = (textOf? v).isSome := by
  cases v with
  | null | bool | number | string => rfl
  | array items =>
    rw [ofJson]
    rfl
  | object members =>
    refine ofJson_object_cases members (fun q hq => ?_) fun _ => rfl
    cases hq <;> rfl

/-- A value stands for a list of texts exactly if it is an array of strings. -/
theorem isTextList_ofJson (v : Json) : (ofJson v).isTextList = (pathsOf? v).isSome := by
  cases v with
  | null | bool | number | string => rfl
  | array items =>
    rw [ofJson, isTextList, pathsOf?]
    induction items with
    | nil => rfl
    | cons item rest ih =>
      rw [itemsOfJson, List.all_cons, isText_ofJson, ih, List.mapM_cons]
      cases textOf? item with
      | none => rfl
      | some text => cases rest.mapM fun item => (textOf? item).map Path.mk <;> rfl
  | object members =>
    refine ofJson_object_cases members (fun q hq => ?_) fun _ => rfl
    cases hq <;> rfl

/-- Where no reserved key is repeated, an object is confusable exactly if its members encode
something. -/
theorem isConfusable_membersOfJson (h : ∀ key ∈ reservedKeys, (members.map (·.1)).count key ≤ 1) :
    (object (membersOfJson [] members)).isConfusable = (reserved? members).isSome := by
  have hform {α : Type} (form? : Json → Option α) (form : Property → Bool)
      (hform : ∀ v, form (ofJson v) = (form? v).isSome) (v? : Option Json) :
      (v?.map ofJson).any form = (v?.bind form?).isSome := by
    cases v? with
    | none => rfl
    | some v => exact hform v
  rw [isConfusable, findEntry_membersOfJson (h "error" (by decide)),
    findEntry_membersOfJson (h "unresolved" (by decide)),
    findEntry_membersOfJson (h "files" (by decide)), reserved?]
  simp only [hform textOf? isText isText_ofJson, hform pathsOf? isTextList isTextList_ofJson,
    Option.isSome_or, Option.isSome_map, Bool.or_assoc]

/-- **No object is confusable in a property that stands for a value where no reserved key is
repeated.** -/
theorem forall_isConfusable_eq_false {v : Json} (h : ReservedOnce v.toNode) :
    ∀ q ∈ (ofJson v).nodes, q.isConfusable = false := by
  refine forall_mem_nodes_ofJson (P := fun v => ReservedOnce v.toNode)
    (fun _ => Json.forall_objectKeys_array.1) (fun _ hv => (Json.forall_objectKeys_object.1 hv).2)
    (fun v hv => ?_) h
  cases v with
  | null | bool | number | string => rfl
  | array items =>
    rw [ofJson]
    rfl
  | object members =>
    refine ofJson_object_cases members (fun q hq => ?_) fun hplain => ?_
    · cases hq <;> rfl
    · rw [isConfusable_membersOfJson (Json.forall_objectKeys_object.1 hv).1,
        reserved?_eq_none hplain]
      rfl

/-! ## Properties that are read again -/

theorem reservedOnce_of_eq_nil {node : Node} (h : node.objectKeys = []) : ReservedOnce node :=
  fun _ hkeys => absurd (h ▸ hkeys) List.not_mem_nil

theorem reservedOnce_object (hkeys : (members.map (·.1)).Nodup)
    (hvalues : ∀ member ∈ members, ReservedOnce member.2.toNode) :
    ReservedOnce (Json.object members).toNode :=
  Json.forall_objectKeys_object.2 ⟨fun key _ => List.nodup_iff_count_le_one.1 hkeys key, hvalues⟩

/-- No reserved key is repeated in the JSON form of a property with distinct names. -/
theorem reservedOnce_toJson (h : p.NamesDistinct) : ReservedOnce p.toJson.toNode := by
  induction p using nested_induction with
  | absent | text | bool | number =>
    rw [toJson]
    exact reservedOnce_of_eq_nil rfl
  | failed | unresolved =>
    rw [toJson]
    refine reservedOnce_object (List.nodup_singleton _) (List.forall_mem_singleton.2 ?_)
    exact reservedOnce_of_eq_nil rfl
  | files paths =>
    rw [toJson]
    refine reservedOnce_object (List.nodup_singleton _) (List.forall_mem_singleton.2 ?_)
    refine Json.forall_objectKeys_array.2 (List.forall_mem_map.2 fun text _ => ?_)
    exact reservedOnce_of_eq_nil rfl
  | list items ih =>
    rw [toJson, itemsToJson_eq_map]
    refine Json.forall_objectKeys_array.2 (List.forall_mem_map.2 fun item hitem => ?_)
    exact ih item hitem (namesDistinct_list_iff.1 h item hitem)
  | object members ih =>
    obtain ⟨hnames, hmembers⟩ := namesDistinct_object_iff.1 h
    rw [toJson, membersToJson_eq_map]
    refine reservedOnce_object (by rwa [map_fst_map]) ?_
    refine List.forall_mem_map.2 fun member hmember => ?_
    exact ih member hmember (hmembers member hmember)

/-- **A property that has been read again once has no confusable objects.** -/
theorem forall_isConfusable_reread (h : p.NamesDistinct) :
    ∀ q ∈ p.reread.nodes, q.isConfusable = false :=
  forall_isConfusable_eq_false (reservedOnce_toJson h)

end CompositeBuild.Property
