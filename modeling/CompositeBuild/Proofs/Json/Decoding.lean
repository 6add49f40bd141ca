/-
# Decoding written values

A decoder reads a value as what it stands for if it gives that wherever as many levels may be opened
as the value nests, and rejects the value as malformed everywhere else (`Decoder.Reads`).  Lists,
maps and records are read as what their items, entries and fields stand for (`Decoder.reads_list`,
`Decoder.reads_entries`, `Decoder.reads_record`), and so is the text of a value
(`Decoder.Reads.fromChars_write`).
-/
import CompositeBuild.Json.Record
import CompositeBuild.Proofs.Json.Reading

namespace CompositeBuild.Json

/-! ## Nesting -/

section Nesting

variable {n : Nat}

theorem depthOfItems_le_iff {items : List Json} :
    depthOfItems items ≤ n ↔ ∀ item ∈ items, item.depth ≤ n := by
  induction items with
  | nil => simp [depthOfItems]
  | cons item rest ih => rw [depthOfItems, Nat.max_le, ih, List.forall_mem_cons]

theorem depthOfMembers_le_iff {members : List (String × Json)} :
    depthOfMembers members ≤ n ↔ ∀ member ∈ members, member.2.depth ≤ n := by
  induction members with
  | nil => simp [depthOfMembers]
  | cons member rest ih => rw [depthOfMembers, Nat.max_le, ih, List.forall_mem_cons]

theorem depth_array_le_iff {items : List Json} :
    (array items).depth ≤ n + 1 ↔ ∀ item ∈ items, item.depth ≤ n := by
  rw [depth, Nat.add_le_add_iff_right, depthOfItems_le_iff]

theorem depth_object_le_iff {members : List (String × Json)} :
    (object members).depth ≤ n + 1 ↔ ∀ member ∈ members, member.2.depth ≤ n := by
  rw [depth, Nat.add_le_add_iff_right, depthOfMembers_le_iff]

end Nesting

/-! ## Values within a number of levels -/

section Within

variable {α β : Type} {depth depth' room : Nat} {a : α} {b : β}

/-- A value that needs a number of levels, where some may be opened: it is malformed if these are
too few. -/
def within (depth room : Nat) (a : α) : Except DecodeError α :=
  if depth ≤ room then .ok a else .error (.text .malformed)

@[simp] theorem within_zero : within 0 room a = .ok a := if_pos (Nat.zero_le room)

@[simp] theorem within_succ_zero : within (depth + 1) 0 a = .error (.text .malformed) :=
  if_neg (Nat.not_succ_le_zero depth)

@[simp] theorem within_succ_succ : within (depth + 1) (room + 1) a = within depth room a := by
  simp only [within, Nat.add_le_add_iff_right]

theorem within_map (f : α → β) :
    (do return f (← within depth room a)) = within depth room (f a) := by
  unfold within
  split <;> rfl

/-- Two values one after the other need the levels of each. -/
theorem within_bind {f : α → Except DecodeError β} (hf : f a = within depth' room b) :
    (within depth room a >>= f) = within (max depth depth') room b := by
  unfold within at hf ⊢
  by_cases hdepth : depth ≤ room
  · simp only [hdepth, Nat.max_le, true_and, if_true]
    exact hf
  · simp only [hdepth, Nat.max_le, false_and, if_false]
    rfl

end Within

/-! ## Reading values as what they stand for -/

namespace Decoder

variable {α β : Type}

/-- The decoder reads a value as `a`, where the levels of the value may be opened; elsewhere the
value is malformed. -/
def Reads (decode : Decoder α) (v : Json) (a : α) : Prop :=
  ∀ room, decode room v.toNode = within v.depth room a

theorem reads_string (s : String) : Reads string (.string s) s := fun _ => within_zero.symm

theorem reads_path (p : Path) : Reads path (.string p.text) p := fun _ => within_zero.symm

theorem reads_bool (b : Bool) : Reads bool (.bool b) b := fun _ => within_zero.symm

/-- What a decoded value is checked for or made into is read where the value is. -/
theorem Reads.bind {decode : Decoder α} {v : Json} {a : α} (h : Reads decode v a)
    {f : α → Except DecodeError β} {b : β} (hf : f a = .ok b) :
    Reads (fun room node => decode room node >>= f) v b := by
  intro room
  show (decode room v.toNode >>= f) = _
  rw [h room]
  unfold within
  split
  · exact hf
  · rfl

/-- What is made of a decoded value is read where the value is. -/
theorem Reads.map {decode : Decoder α} {v : Json} {a : α} (h : Reads decode v a) (f : α → β) :
    Reads (fun room node => do return f (← decode room node)) v (f a) :=
  h.bind rfl

/-! ### Lists -/

/-- Items are read one after the other, each as what it stands for. -/
theorem items_itemsToNode {decode : Decoder β} {toJson : α → Json} {f : α → β} {as : List α}
    (h : ∀ a ∈ as, Reads decode (toJson a) (f a)) (room : Nat) :
    items (decode room) (itemsToNode (as.map toJson)) =
      within (depthOfItems (as.map toJson)) room (as.map f) := by
  induction as with
  | nil => exact within_zero.symm
  | cons a rest ih =>
    obtain ⟨ha, hrest⟩ := List.forall_mem_cons.1 h
    simp only [List.map_cons, itemsToNode, items, depthOfItems]
    rw [ha room]
    apply within_bind
    rw [ih hrest, within_map]

/-- **An array is read as the list of what its items stand for.** -/
theorem reads_list_map {decode : Decoder β} {toJson : α → Json} {f : α → β} {as : List α}
    (h : ∀ a ∈ as, Reads decode (toJson a) (f a)) :
    Reads (list decode) (.array (as.map toJson)) (as.map f) := by
  intro room
  cases room with
  | zero => exact within_succ_zero.symm
  | succ room =>
    rw [depth, within_succ_succ]
    exact items_itemsToNode h room

theorem reads_list {decode : Decoder α} {toJson : α → Json} {as : List α}
    (h : ∀ a ∈ as, Reads decode (toJson a) a) :
    Reads (list decode) (.array (as.map toJson)) as := by
  have hmap := reads_list_map (f := id) h
  rwa [List.map_id] at hmap

/-! ### Maps -/

/-- Entries are read one after the other, each as its key and what its value stands for. -/
theorem members_membersToNode {decode : Decoder β} {toJson : α → Json} {f : α → β}
    {entries : List (String × α)}
    (h : ∀ entry ∈ entries, Reads decode (toJson entry.2) (f entry.2)) (room : Nat) :
    members (decode room) (membersToNode (entries.map fun entry => (entry.1, toJson entry.2))) =
      within (depthOfMembers (entries.map fun entry => (entry.1, toJson entry.2))) room
        (entries.map fun entry => (entry.1, f entry.2)) := by
  induction entries with
  | nil => exact within_zero.symm
  | cons entry rest ih =>
    obtain ⟨hentry, hrest⟩ := List.forall_mem_cons.1 h
    simp only [List.map_cons, membersToNode, members, depthOfMembers]
    rw [hentry room]
    apply within_bind
    rw [ih hrest, within_map]

/-- **An object without fixed keys is read as the list of its keys and what their values stand
for.** -/
theorem reads_entries_map {decode : Decoder β} {toJson : α → Json} {f : α → β}
    {entries : List (String × α)}
    (h : ∀ entry ∈ entries, Reads decode (toJson entry.2) (f entry.2)) :
    Reads (Decoder.entries decode) (.object (entries.map fun entry => (entry.1, toJson entry.2)))
      (entries.map fun entry => (entry.1, f entry.2)) := by
  intro room
  cases room with
  | zero => exact within_succ_zero.symm
  | succ room =>
    rw [depth, within_succ_succ]
    exact members_membersToNode h room

theorem reads_entries {decode : Decoder α} {toJson : α → Json} {entries : List (String × α)}
    (h : ∀ entry ∈ entries, Reads decode (toJson entry.2) entry.2) :
    Reads (Decoder.entries decode) (.object (entries.map fun entry => (entry.1, toJson entry.2)))
      entries := by
  have hmap := reads_entries_map (f := id) h
  have hid : (entries.map fun entry => (entry.1, id entry.2)) = entries := List.map_id _
  rwa [hid] at hmap

/-! ### Values as they are -/

-- The induction is on the value, as the decoder of values goes through its tree.
mutual

/-- A value is read as itself where its levels may be opened. -/
theorem value_toNode (v : Json) (room : Nat) : v.toNode.value room = within v.depth room v := by
  match v with
  | .null | .bool _ | .number _ | .string _ =>
    rw [toNode, Node.value]
    exact within_zero.symm
  | .array items =>
    rw [toNode, depth]
    cases room with
    | zero => exact within_succ_zero.symm
    | succ room =>
      rw [Node.value, values_itemsToNode items room, within_succ_succ, within_map]
  | .object members =>
    rw [toNode, depth]
    cases room with
    | zero => exact within_succ_zero.symm
    | succ room =>
      rw [Node.value, values_membersToNode members room, within_succ_succ, within_map]

/-- The items of an array are read as themselves. -/
theorem values_itemsToNode (items : List Json) (room : Nat) :
    (itemsToNode items).values room = within (depthOfItems items) room items := by
  match items with
  | [] => exact within_zero.symm
  | item :: rest =>
    rw [itemsToNode, Items.values, depthOfItems, value_toNode item room]
    apply within_bind
    rw [values_itemsToNode rest room, within_map]

/-- The members of an object are read as themselves. -/
theorem values_membersToNode (members : List (String × Json)) (room : Nat) :
    (membersToNode members).values room = within (depthOfMembers members) room members := by
  match members with
  | [] => exact within_zero.symm
  | (key, value) :: rest =>
    rw [membersToNode, Members.values, depthOfMembers, value_toNode value room]
    apply within_bind
    rw [values_membersToNode rest room, within_map]

end

/-- **Every value is read as itself.** -/
theorem reads_value (v : Json) : Reads value v v := value_toNode v

end Decoder

/-! ## Records -/

namespace Fields

/-- The names of the fields, in order. -/
def names {αs : List Type} : Fields αs → List String
  | nil => []
  | cons field rest => field.name :: rest.names

/-- The members of an object are those of a written record with the given values: the fields in
their order, without some that are absent from it and have the value for this case. -/
inductive Written (room : Nat) :
    {αs : List Type} → Fields αs → List (String × Json) → Values αs → Prop
  | nil : Written room .nil [] ()
  | member {α : Type} {αs : List Type} {field : Field α} {rest : Fields αs} {v : Json} {a : α}
      {members : List (String × Json)} {values : Values αs}
      (decoded : field.decode v.toNode = within v.depth room a)
      (more : Written room rest members values) :
      Written room (.cons field rest) ((field.name, v) :: members) (a, values)
  | absent {α : Type} {αs : List Type} {field : Field α} {rest : Fields αs} {a : α}
      {members : List (String × Json)} {values : Values αs} (inObject : field.inObject = some a)
      (more : Written room rest members values) :
      Written room (.cons field rest) members (a, values)

variable {α : Type} {αs : List Type} {room : Nat} {members : List (String × Json)}

/-- The keys of a written record are names of its fields. -/
theorem Written.key_mem_names {fields : Fields αs} {values : Values αs}
    (h : Written room fields members values) {member : String × Json} (hmember : member ∈ members) :
    member.1 ∈ fields.names := by
  induction h with
  | nil => exact absurd hmember List.not_mem_nil
  | member _ _ ih =>
    rcases List.mem_cons.1 hmember with rfl | hmember
    · exact List.mem_cons_self
    · exact List.mem_cons_of_mem _ (ih hmember)
  | absent _ _ ih => exact List.mem_cons_of_mem _ (ih hmember)

/-- A member with the name of the first field, which has not been met, is taken up by that field. -/
theorem meet_name {field : Field α} {rest : Fields αs} (value : Node) (slots : Slots αs) :
    (cons field rest).meet field.name value (none, slots) =
      do return (some (← field.decode value), slots) :=
  if_pos rfl

theorem meet_name_again {field : Field α} {rest : Fields αs} (value : Node) (a : α)
    (slots : Slots αs) :
    (cons field rest).meet field.name value (some a, slots) =
      .error (.data (.repeatedField field.name)) :=
  if_pos rfl

theorem meet_of_ne {field : Field α} {rest : Fields αs} {key : String} (h : key ≠ field.name)
    (value : Node) (slot : Option α) (slots : Slots αs) :
    (cons field rest).meet key value (slot, slots) =
      do return (slot, ← rest.meet key value slots) :=
  if_neg h

/-- Members that do not have the name of the first field are taken up by the others. -/
theorem meetAll_of_ne {field : Field α} {rest : Fields αs}
    (h : ∀ member ∈ members, member.1 ≠ field.name) (slot : Option α) (slots : Slots αs) :
    (cons field rest).meetAll (membersToNode members) (slot, slots) =
      do return (slot, ← rest.meetAll (membersToNode members) slots) := by
  induction members generalizing slots with
  | nil => rfl
  | cons member members ih =>
    obtain ⟨hmember, hmembers⟩ := List.forall_mem_cons.1 h
    simp only [membersToNode, meetAll]
    rw [meet_of_ne hmember]
    cases rest.meet member.1 member.2.toNode slots with
    | error e => rfl
    | ok slots => exact ih hmembers slots

/-- A record whose first member is its first field has the decoded value of that field. -/
theorem ofMembers_member {field : Field α} {rest : Fields αs} {v : Json}
    (h : ∀ member ∈ members, member.1 ≠ field.name) :
    (cons field rest).ofMembers (membersToNode ((field.name, v) :: members)) = do
      let a ← field.decode v.toNode
      return (a, ← rest.ofMembers (membersToNode members)) := by
  simp only [ofMembers, noneMet, membersToNode, meetAll]
  rw [meet_name]
  cases field.decode v.toNode with
  | error e => rfl
  | ok a =>
    show ((cons field rest).meetAll (membersToNode members) (some a, rest.noneMet) >>=
      (cons field rest).settle) = _
    rw [meetAll_of_ne h]
    cases rest.meetAll (membersToNode members) rest.noneMet <;> rfl

/-- A record without its first field has the value of that field for this case. -/
theorem ofMembers_absent {field : Field α} {rest : Fields αs} {a : α}
    (h : ∀ member ∈ members, member.1 ≠ field.name) (hfield : field.inObject = some a) :
    (cons field rest).ofMembers (membersToNode members) =
      do return (a, ← rest.ofMembers (membersToNode members)) := by
  rw [ofMembers, noneMet, meetAll_of_ne h, ofMembers]
  cases rest.meetAll (membersToNode members) rest.noneMet with
  | error e => rfl
  | ok slots =>
    show (cons field rest).settle (none, slots) = do return (a, ← rest.settle slots)
    rw [settle, Option.none_or, hfield]

/-- The members of a written record are read as its values. -/
theorem Written.ofMembers_eq {fields : Fields αs} {values : Values αs}
    (h : Written room fields members values) (hdistinct : fields.names.Nodup) :
    fields.ofMembers (membersToNode members) = within (depthOfMembers members) room values := by
  induction h with
  | nil => exact within_zero.symm
  | member hdecoded hmore ih =>
    -- The members behind the field have other names, so they leave its slot as it is.
    obtain ⟨hname, hnames⟩ := List.nodup_cons.1 hdistinct
    rw [ofMembers_member fun member hmember heq => hname (heq ▸ hmore.key_mem_names hmember),
      hdecoded, depthOfMembers]
    apply within_bind
    rw [ih hnames, within_map]
  | absent hfield hmore ih =>
    obtain ⟨hname, hnames⟩ := List.nodup_cons.1 hdistinct
    rw [ofMembers_absent
      (fun member hmember heq => hname (heq ▸ hmore.key_mem_names hmember)) hfield, ih hnames]
    exact within_map _

/-- Where null is allowed, any other value is read as it is elsewhere. -/
theorem orNull_of_ne_null {decode : Decoder α} {v : Json} {a : α} (hv : v ≠ .null)
    (h : decode.Reads v a) :
    Field.orNull (decode room) v.toNode = within v.depth room (some a) := by
  have hdecode : Field.orNull (decode room) v.toNode = do return some (← decode room v.toNode) := by
    cases v with
    | null => exact absurd rfl hv
    | bool | number | string | array | object => rfl
  rw [hdecode, h room, within_map]

/-- An optional field is written as a member if it has a value, and left out otherwise. -/
theorem Written.optional {rest : Fields αs} {values : Values αs} {name : String}
    {decode : Decoder α} {v? : Option Json} {a? : Option α}
    (h : Option.Rel (fun v a => v ≠ .null ∧ decode.Reads v a) v? a?)
    (more : Written room rest members values) :
    Written room (.cons (.optional name (decode room)) rest) (optionalMember name v? ++ members)
      (a?, values) := by
  cases h with
  | some h => exact .member (orNull_of_ne_null h.1 h.2) more
  | none => exact .absent rfl more

end Fields

namespace Decoder

/-- **A written record is read as what is built from its values.** -/
theorem reads_record {αs : List Type} {σ : Type} {type : String} {fields : Nat → Fields αs}
    {build : Values αs → σ} {members : List (String × Json)} {values : Values αs} {s : σ}
    (hwritten : ∀ room, (fields room).Written room members values) (hbuild : build values = s)
    (hdistinct : ∀ room, (fields room).names.Nodup) :
    Reads (record type fields build) (.object members) s := by
  intro room
  cases room with
  | zero => exact within_succ_zero.symm
  | succ room =>
    rw [depth, within_succ_succ]
    show (do return build (← (fields room).ofMembers (membersToNode members))) = _
    rw [(hwritten room).ofMembers_eq (hdistinct room), within_map, hbuild]

/-! ## Texts -/

/-- **The text of a value is read as the value is**, in either layout and with blanks behind it,
where a text may open as many levels. -/
theorem Reads.fromChars_write {α : Type} {decode : Decoder α} {v : Json} {a : α}
    (h : decode.Reads v a) (hv : v.IsIntegral) (layout : Layout) {bs : List Char}
    (hbs : IsBlanks bs) :
    decode.fromChars (write layout 0 v ++ bs) = within v.depth textRoom a := by
  have hend : EndsNumeral bs := by
    rw [← List.append_nil bs]
    exact endsNumeral_append hbs nofun
  have hall : bs.all isBlank = true := List.all_eq_true.2 hbs
  unfold fromChars
  simp only [readText_write layout hv hend, h textRoom, within]
  by_cases hdepth : v.depth ≤ textRoom
  · simp only [hdepth, hall, if_true]
  · simp only [hdepth, if_false, inText]

/-- The text of a value that nests no deeper than a text may is read as the value is. -/
theorem Reads.fromText_toText {α : Type} {decode : Decoder α} {v : Json} {a : α}
    (h : decode.Reads v a) (hv : v.IsIntegral) (hdepth : v.depth ≤ textRoom) (layout : Layout) :
    decode.fromText (v.toText layout) = .ok a := by
  have hblanks : IsBlanks [] := nofun
  have hread := h.fromChars_write hv layout hblanks
  rw [List.append_nil, within, if_pos hdepth] at hread
  rw [fromText, toText, String.toList_ofList, hread]

end Decoder

end CompositeBuild.Json
