/-
# Reserved keys of captured properties

The JSON form of a property is read as a property again, but not always as the same one: an object
with a reserved key and a value of the form that the key is reserved for is taken for what the key
stands for. These objects are the only ones that are not read as they were written, so a property
comes back exactly if there is none of them in it, at any depth (`reread_eq_self_iff`).
-/
import CompositeBuild.Proofs.Collection.InsertionMap
import CompositeBuild.Proofs.Json.Members
import CompositeBuild.Property.Basic

namespace CompositeBuild.Property

/-! ## Properties inside properties -/

/-- What holds of a property if it holds of everything inside holds of every property. -/
@[elab_as_elim] theorem nested_induction {P : Property → Prop} (absent : P absent)
    (failed : ∀ reason, P (failed reason)) (unresolved : ∀ reason, P (unresolved reason))
    (files : ∀ paths, P (files paths)) (text : ∀ value, P (text value))
    (bool : ∀ value, P (bool value)) (number : ∀ value, P (number value))
    (list : ∀ items, (∀ item ∈ items, P item) → P (list items))
    (object : ∀ members, (∀ member ∈ members, P member.2) → P (object members)) (p : Property) :
    P p := by
  match p with
  | .absent => exact absent
  | .failed reason => exact failed reason
  | .unresolved reason => exact unresolved reason
  | .files paths => exact files paths
  | .text value => exact text value
  | .bool value => exact bool value
  | .number value => exact number value
  | .list items =>
    exact list items fun item _ =>
      nested_induction absent failed unresolved files text bool number list object item
  | .object members =>
    exact object members fun member _ =>
      nested_induction absent failed unresolved files text bool number list object member.2
  termination_by sizeOf p
  decreasing_by
    · have hitem := List.sizeOf_lt_of_mem ‹_ ∈ _›
      simp only [Property.list.sizeOf_spec]
      omega
    · have hmember := List.sizeOf_lt_of_mem ‹_ ∈ _›
      have hvalue : sizeOf member.2 < sizeOf member := by
        obtain ⟨name, value⟩ := member
        show sizeOf value < sizeOf (name, value)
        rw [Prod.mk.sizeOf_spec]
        omega
      simp only [Property.object.sizeOf_spec]
      omega

/-- The property is a number that is no integer of 64 bits. -/
def isDouble : Property → Bool
  | number (.double _) => true
  | _ => false

/-! ## Confusable objects -/

/-- The property is a text. -/
def isText : Property → Bool
  | text _ => true
  | _ => false

/-- The property is a list of texts. -/
def isTextList : Property → Bool
  | list items => items.all isText
  | _ => false

/-- The property is an object with a text at `error` or at `unresolved`, or with a list of texts at
`files`. -/
def isConfusable : Property → Bool
  | object members =>
    (findEntry members "error").any isText || (findEntry members "unresolved").any isText ||
      (findEntry members "files").any isTextList
  | _ => false

/-! ## JSON forms of lists and objects -/

theorem itemsToJson_eq_map (items : List Property) : itemsToJson items = items.map toJson := by
  induction items with
  | nil => rfl
  | cons item rest ih => rw [itemsToJson, ih, List.map_cons]

theorem membersToJson_eq_map (members : List (String × Property)) :
    membersToJson members = members.map fun member => (member.1, member.2.toJson) := by
  induction members with
  | nil => rfl
  | cons member rest ih => rw [membersToJson, ih, List.map_cons]

theorem itemsOfJson_eq_map (items : List Json) : itemsOfJson items = items.map ofJson := by
  induction items with
  | nil => rfl
  | cons item rest ih => rw [itemsOfJson, ih, List.map_cons]

/-- The properties of members are set one after the other. -/
theorem membersOfJson_eq_foldl (before : List (String × Property))
    (members : List (String × Json)) :
    membersOfJson before members =
      (members.map fun member => (member.1, ofJson member.2)).foldl
        (fun entries entry => putEntry entry.1 entry.2 entries) before := by
  induction members generalizing before with
  | nil => rfl
  | cons member rest ih => rw [membersOfJson, ih, List.map_cons, List.foldl_cons]

/-- **The JSON form of a property holds a double exactly if there is one in the property.** -/
theorem isIntegral_toJson_iff (p : Property) :
    p.toJson.IsIntegral ↔ ∀ q ∈ p.nodes, q.isDouble = false := by
  induction p using nested_induction with
  | absent | failed | unresolved | files | text | bool =>
    simp [toJson, nodes, isDouble, Json.IsIntegral, Json.MembersIntegral]
  | number value => cases value <;> simp [toJson, nodes, isDouble, Json.IsIntegral]
  | list items ih =>
    rw [forall_mem_nodes_list, toJson, itemsToJson_eq_map, Json.IsIntegral, Json.itemsIntegral_iff,
      List.forall_mem_map, forall₂_congr ih]
    exact (and_iff_right rfl).symm
  | object members ih =>
    rw [forall_mem_nodes_object, toJson, membersToJson_eq_map, Json.IsIntegral,
      Json.membersIntegral_iff, List.forall_mem_map, forall₂_congr ih]
    exact (and_iff_right rfl).symm

/-! ## What a reserved key stands for -/

/-- A key that is set once has the value that is found under it. -/
theorem onlyMember?_of_nodup {members : List (String × Json)} (h : (members.map (·.1)).Nodup)
    (key : String) : onlyMember? key members = findEntry members key := by
  have hfilter : members.filter (·.1 = key) = (members.find? (·.1 = key)).toList := by
    induction members with
    | nil => rfl
    | cons member rest ih =>
      obtain ⟨hnew, hrest⟩ := List.nodup_cons.1 h
      by_cases hkey : member.1 = key
      · have hnone : rest.filter (·.1 = key) = [] := by
          rw [List.filter_eq_nil_iff]
          intro other hother heq
          exact hnew (List.mem_map.2 ⟨other, hother, (of_decide_eq_true heq).trans hkey.symm⟩)
        simp [hkey, hnone]
      · simpa [hkey] using ih hrest
  unfold onlyMember? findEntry
  rw [hfilter]
  cases members.find? (·.1 = key) <;> rfl

theorem isSome_textOf?_toJson (p : Property) : (textOf? p.toJson).isSome = p.isText := by
  cases p <;> simp [toJson, textOf?, isText]

/-- The array of the spellings of paths stands for the paths. -/
theorem pathsOf?_strings (paths : List Path) :
    pathsOf? (Json.strings (paths.map Path.text)) = some paths := by
  rw [Json.strings, pathsOf?, List.map_map]
  induction paths with
  | nil => rfl
  | cons path rest ih =>
    rw [List.map_cons, List.mapM_cons, ih]
    rfl

/-- The JSON form of a property is an array of strings exactly if the property is a list of
texts. -/
theorem isSome_pathsOf?_toJson (p : Property) : (pathsOf? p.toJson).isSome = p.isTextList := by
  cases p with
  | list items =>
    simp only [toJson, pathsOf?, isTextList]
    induction items with
    | nil => rfl
    | cons item rest ih =>
      rw [itemsToJson, List.mapM_cons, List.all_cons, ← ih, ← isSome_textOf?_toJson item]
      cases textOf? item.toJson with
      | none => rfl
      | some path => cases (itemsToJson rest).mapM fun item => (textOf? item).map Path.mk <;> rfl
  | absent | failed | unresolved | files | text | bool | number | object =>
    simp [toJson, pathsOf?, isTextList]

/-- **The members of an object stand for something else exactly if the object is confusable.** -/
theorem isSome_reserved?_membersToJson {members : List (String × Property)}
    (h : (members.map (·.1)).Nodup) :
    (reserved? (membersToJson members)).isSome = (object members).isConfusable := by
  have honly (key : String) :
      onlyMember? key (membersToJson members) = (findEntry members key).map toJson := by
    rw [membersToJson_eq_map, onlyMember?_of_nodup (by rwa [map_fst_map]), findEntry_map]
  have hform {α : Type} (form? : Json → Option α) (form : Property → Bool)
      (hform : ∀ p : Property, (form? p.toJson).isSome = form p) (p? : Option Property) :
      ((p?.map toJson).bind form?).isSome = p?.any form := by
    cases p? with
    | none => rfl
    | some p => exact hform p
  unfold reserved? isConfusable
  simp only [honly, Option.isSome_or, Option.isSome_map, hform textOf? isText isSome_textOf?_toJson,
    hform pathsOf? isTextList isSome_pathsOf?_toJson, Bool.or_assoc]

/-- What the members of an object stand for otherwise is no object. -/
theorem reserved?_ne_object {members : List (String × Json)} {p : Property}
    (h : reserved? members = some p) (members' : List (String × Property)) :
    p ≠ object members' := by
  have hne {α : Type} {build : α → Property} (hbuild : ∀ a, build a ≠ object members')
      {a? : Option α} (ha : a?.map build = some p) : p ≠ object members' := by
    obtain ⟨a, -, rfl⟩ := Option.map_eq_some_iff.1 ha
    exact hbuild a
  unfold reserved? at h
  rcases Option.or_eq_some_iff.1 h with h | ⟨-, h⟩
  · exact hne nofun h
  · rcases Option.or_eq_some_iff.1 h with h | ⟨-, h⟩
    · exact hne nofun h
    · exact hne nofun h

/-! ## Reading properties again -/

/-- What the JSON form of a property stands for. -/
def reread (p : Property) : Property := ofJson p.toJson

/-- The items of a list are read one by one. -/
theorem reread_list (items : List Property) : (list items).reread = list (items.map reread) := by
  unfold reread
  rw [toJson, ofJson, itemsOfJson_eq_map, itemsToJson_eq_map, List.map_map]
  rfl

/-- A confusable object is not read as an object. -/
theorem reread_object_of_confusable {members : List (String × Property)}
    (h : (members.map (·.1)).Nodup) (hconfusable : (object members).isConfusable = true)
    (members' : List (String × Property)) : (object members).reread ≠ object members' := by
  rw [← isSome_reserved?_membersToJson h, Option.isSome_iff_exists] at hconfusable
  obtain ⟨p, hp⟩ := hconfusable
  unfold reread
  rw [toJson, ofJson, hp]
  exact reserved?_ne_object hp members'

/-- The members of any other object are read one by one. -/
theorem reread_object {members : List (String × Property)} (h : (members.map (·.1)).Nodup)
    (hconfusable : (object members).isConfusable = false) :
    (object members).reread = object (members.map fun member => (member.1, member.2.reread)) := by
  rw [← isSome_reserved?_membersToJson h, Option.isSome_eq_false_iff, Option.isNone_iff_eq_none]
    at hconfusable
  have hmembers : (membersToJson members).map (fun member => (member.1, ofJson member.2)) =
      members.map fun member => (member.1, member.2.reread) := by
    rw [membersToJson_eq_map, List.map_map]
    rfl
  have hdistinct : ((members.map fun member => (member.1, member.2.reread)).map (·.1)).Nodup := by
    rwa [map_fst_map]
  show ofJson (object members).toJson = _
  rw [toJson, ofJson, hconfusable]
  show object (membersOfJson [] (membersToJson members)) = _
  rw [membersOfJson_eq_foldl, hmembers, foldl_putEntry_nil hdistinct]

/-- A file collection is read as it was written. -/
theorem reread_files (paths : List Path) : (files paths).reread = files paths := by
  unfold reread
  simp [toJson, ofJson, reserved?, onlyMember?, pathsOf?_strings]

/-- **A property is read as it was written exactly if no object in it is confusable.** -/
theorem reread_eq_self_iff {p : Property} (hdistinct : p.NamesDistinct) :
    p.reread = p ↔ ∀ q ∈ p.nodes, q.isConfusable = false := by
  induction p using nested_induction with
  | absent | text | bool | number => simp [reread, toJson, ofJson, nodes, isConfusable]
  | failed | unresolved =>
    simp [reread, toJson, ofJson, reserved?, onlyMember?, textOf?, nodes, isConfusable]
  | files paths => simp [reread_files, nodes, isConfusable]
  | list items ih =>
    have hitems := namesDistinct_list_iff.1 hdistinct
    rw [forall_mem_nodes_list, reread_list, list.injEq,
      ← forall₂_congr fun item hitem => ih item hitem (hitems item hitem)]
    simp [isConfusable, map_eq_self_iff]
  | object members ih =>
    obtain ⟨hnames, hmembers⟩ := namesDistinct_object_iff.1 hdistinct
    rw [forall_mem_nodes_object,
      ← forall₂_congr fun member hmember => ih member hmember (hmembers member hmember)]
    cases hconfusable : (object members).isConfusable with
    | true =>
      have hne := reread_object_of_confusable hnames hconfusable members
      simp [hne]
    | false =>
      rw [reread_object hnames hconfusable, object.injEq, map_entries_eq_self_iff,
        List.forall_mem_map]
      exact (and_iff_right rfl).symm

end CompositeBuild.Property
