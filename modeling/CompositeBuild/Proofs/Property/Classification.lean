/-
# What JSON values stand for

Every JSON value stands for exactly one property.  A value that is no object tells by its form
which, and the items of an array stand for the items of a list.  Members of an object encode a
captured failure or a file collection if one of three keys occurs among them once, with a value of
the form that goes with the key (`Encodes`); otherwise the object stands for an object.  So a
property is decoded exactly where a value is, and it is what that value stands for
(`decoder_eq_ok_iff`).
-/
import CompositeBuild.Proofs.Collection.RepeatedKeys
import CompositeBuild.Proofs.Json.Values
import CompositeBuild.Proofs.Property.ReservedKeys

namespace CompositeBuild.Property

open Json (Decoder Layout Node)

/-! ## Failures and file collections -/

/-- The members hold a string at the only occurrence of the key. -/
def HoldText (members : List (String × Json)) (key : String) : Prop :=
  ∃ text, IsOnly members key (.string text)

/-- The members of an object encode the property, a captured failure or a file collection.  The
first of the keys that occurs once and has a value of its form decides. -/
inductive Encodes (members : List (String × Json)) : Property → Prop
  | failed {reason : String} (h : IsOnly members "error" (.string reason)) :
    Encodes members (failed reason)
  | unresolved {reason : String} (herror : ¬ HoldText members "error")
    (h : IsOnly members "unresolved" (.string reason)) : Encodes members (unresolved reason)
  | files {paths : List Path} (herror : ¬ HoldText members "error")
    (hunresolved : ¬ HoldText members "unresolved")
    (h : IsOnly members "files" (Json.strings (paths.map Path.text))) :
    Encodes members (files paths)

/-- The JSON value stands for the property. -/
inductive StandsFor : Json → Property → Prop
  | absent : StandsFor .null absent
  | text (s : String) : StandsFor (.string s) (text s)
  | bool (b : Bool) : StandsFor (.bool b) (bool b)
  | number (n : Json.Number) : StandsFor (.number n) (number n)
  | list {items : List Json} {values : List Property} (h : List.Forall₂ StandsFor items values) :
    StandsFor (.array items) (list values)
  | encoded {members : List (String × Json)} {p : Property} (h : Encodes members p) :
    StandsFor (.object members) p
  /-- Each key keeps its first place in an object, with what its last value stands for. -/
  | object {members : List (String × Json)} {entries : List (String × Property)}
    (hplain : ∀ p, ¬ Encodes members p)
    (hnames : entries.map (·.1) = (members.map (·.1)).eraseDups)
    (hvalues : ∀ entry ∈ entries, ∀ v, IsLast members entry.1 v → StandsFor v entry.2) :
    StandsFor (.object members) (object entries)

/-! ## Values at reserved keys -/

section Reserved

variable {members : List (String × Json)} {key reason : String} {v : Json} {p : Property}

/-- The value of a key that occurs once is that of its only member. -/
theorem onlyMember?_eq_some_iff : onlyMember? key members = some v ↔ IsOnly members key v := by
  rw [isOnly_iff]
  unfold onlyMember?
  split
  case h_1 key' value hfilter =>
    have hkey : key' = key := by
      have hmem : (key', value) ∈ members.filter (·.1 = key) := hfilter ▸ List.mem_cons_self
      exact of_decide_eq_true (List.mem_filter.1 hmem).2
    rw [hfilter, hkey, Option.some.injEq, List.cons.injEq, Prod.mk.injEq]
    simp
  case h_2 hfilter => exact ⟨nofun, fun h => absurd h (hfilter key v)⟩

theorem textOf?_eq_some_iff : textOf? v = some reason ↔ v = .string reason := by
  cases v <;> simp [textOf?]

/-- Items are the strings that spell the paths that are taken from them. -/
theorem eq_map_string_of_mapM {items : List Json} {paths : List Path}
    (h : (items.mapM fun item => (textOf? item).map Path.mk) = some paths) :
    items = (paths.map Path.text).map Json.string := by
  induction items generalizing paths with
  | nil =>
    cases h
    rfl
  | cons item rest ih =>
    rw [List.mapM_cons] at h
    obtain ⟨path, hpath, h⟩ := Option.bind_eq_some_iff.1 h
    obtain ⟨paths, hpaths, heq⟩ := Option.bind_eq_some_iff.1 h
    cases heq
    obtain ⟨text, htext, rfl⟩ := Option.map_eq_some_iff.1 hpath
    rw [textOf?_eq_some_iff.1 htext, ih hpaths]
    rfl

/-- A value holds paths exactly if it is the array of the strings that spell them. -/
theorem pathsOf?_eq_some_iff {paths : List Path} :
    pathsOf? v = some paths ↔ v = Json.strings (paths.map Path.text) := by
  constructor
  · intro h
    cases v with
    | array items => exact congrArg Json.array (eq_map_string_of_mapM h)
    | null | bool | number | string | object => exact nomatch h
  · rintro rfl
    exact pathsOf?_strings paths

theorem bind_onlyMember?_eq_some_iff {α : Type} {form? : Json → Option α} {a : α}
    (hform : ∀ v', form? v' = some a ↔ v' = v) :
    (onlyMember? key members).bind form? = some a ↔ IsOnly members key v := by
  simp only [Option.bind_eq_some_iff, onlyMember?_eq_some_iff, hform]
  exact exists_eq_right

theorem textAt?_eq_some_iff :
    (onlyMember? key members).bind textOf? = some reason ↔ IsOnly members key (.string reason) :=
  bind_onlyMember?_eq_some_iff fun _ => textOf?_eq_some_iff

theorem textAt?_eq_none_iff :
    (onlyMember? key members).bind textOf? = none ↔ ¬ HoldText members key := by
  rw [Option.eq_none_iff_forall_ne_some, HoldText, not_exists]
  exact forall_congr' fun text => not_congr textAt?_eq_some_iff

theorem pathsAt?_eq_some_iff {paths : List Path} :
    (onlyMember? key members).bind pathsOf? = some paths ↔
      IsOnly members key (Json.strings (paths.map Path.text)) :=
  bind_onlyMember?_eq_some_iff fun _ => pathsOf?_eq_some_iff

/-- **Members encode a property exactly if they are read as that property.** -/
theorem encodes_iff : Encodes members p ↔ reserved? members = some p := by
  simp only [reserved?, Option.or_eq_some_iff, Option.map_eq_some_iff, Option.map_eq_none_iff,
    textAt?_eq_some_iff, textAt?_eq_none_iff, pathsAt?_eq_some_iff]
  constructor
  · rintro (h | ⟨herror, h⟩ | ⟨herror, hunresolved, h⟩)
    · exact .inl ⟨_, h, rfl⟩
    · exact .inr ⟨herror, .inl ⟨_, h, rfl⟩⟩
    · exact .inr ⟨herror, .inr ⟨hunresolved, _, h, rfl⟩⟩
  · rintro (⟨reason, h, rfl⟩ | ⟨herror, ⟨reason, h, rfl⟩ | ⟨hunresolved, paths, h, rfl⟩⟩)
    · exact .failed h
    · exact .unresolved herror h
    · exact .files herror hunresolved h

end Reserved

/-! ## Objects -/

section Objects

variable {members : List (String × Json)} {p : Property}

/-- An object stands for what its members encode. -/
theorem ofJson_object_of_encodes (h : Encodes members p) : ofJson (.object members) = p := by
  rw [ofJson, encodes_iff.1 h]

/-- Members that encode nothing are read as no property. -/
theorem reserved?_eq_none (h : ∀ p, ¬ Encodes members p) : reserved? members = none :=
  Option.eq_none_iff_forall_ne_some.2 fun p hp => h p (encodes_iff.2 hp)

/-- Any other object stands for an object. -/
theorem ofJson_object_of_plain (h : ∀ p, ¬ Encodes members p) :
    ofJson (.object members) = object (membersOfJson [] members) := by
  rw [ofJson, reserved?_eq_none h]

/-- An object stands for what its members encode, or for an object if they encode nothing. -/
@[elab_as_elim] theorem ofJson_object_cases {P : Property → Prop} (members : List (String × Json))
    (encoded : ∀ p, Encodes members p → P p)
    (plain : (∀ p, ¬ Encodes members p) → P (object (membersOfJson [] members))) :
    P (ofJson (.object members)) := by
  by_cases h : ∃ p, Encodes members p
  · obtain ⟨p, hp⟩ := h
    rw [ofJson_object_of_encodes hp]
    exact encoded p hp
  · rw [not_exists] at h
    rw [ofJson_object_of_plain h]
    exact plain h

theorem map_fst_membersOfJson (members : List (String × Json)) :
    (membersOfJson [] members).map (·.1) = (members.map (·.1)).eraseDups := by
  rw [membersOfJson_eq_foldl, map_fst_foldl_putEntry, map_fst_map]

theorem mem_membersOfJson_iff {key : String} :
    (key, p) ∈ membersOfJson [] members ↔ ∃ v, IsLast members key v ∧ ofJson v = p := by
  rw [membersOfJson_eq_foldl, mem_foldl_putEntry_iff, isLast_map]

/-- The members of an object are told by their names and by what the last values stand for. -/
theorem eq_membersOfJson_iff {entries : List (String × Property)} :
    entries = membersOfJson [] members ↔
      entries.map (·.1) = (members.map (·.1)).eraseDups ∧
        ∀ entry ∈ entries, ∀ v, IsLast members entry.1 v → entry.2 = ofJson v := by
  constructor
  · rintro rfl
    refine ⟨map_fst_membersOfJson members, fun entry hentry v hv => ?_⟩
    obtain ⟨v', hv', heq⟩ := mem_membersOfJson_iff.1 hentry
    rw [← heq, hv'.unique hv]
  · rintro ⟨hnames, hvalues⟩
    refine eq_of_map_fst (hnames.trans (map_fst_membersOfJson members).symm)
      fun key value value' hvalue hvalue' => ?_
    obtain ⟨v, hv, rfl⟩ := mem_membersOfJson_iff.1 hvalue'
    exact hvalues (key, value) hvalue v hv

end Objects

/-! ## Exactly one property -/

/-- Items of a list are what the items of an array stand for if that is so for each. -/
theorem forall₂_standsFor_iff {items : List Json} {values : List Property}
    (h : ∀ item ∈ items, ∀ p, StandsFor item p ↔ p = ofJson item) :
    List.Forall₂ StandsFor items values ↔ values = itemsOfJson items := by
  induction items generalizing values with
  | nil => exact List.forall₂_nil_left_iff
  | cons item rest ih =>
    obtain ⟨hitem, hrest⟩ := List.forall_mem_cons.1 h
    rw [List.forall₂_cons_left_iff, itemsOfJson]
    simp only [hitem, ih hrest]
    constructor
    · rintro ⟨p, ps, rfl, rfl, heq⟩
      exact heq
    · rintro rfl
      exact ⟨_, _, rfl, rfl, rfl⟩

/-- **A value stands for one property, and that is what it is read as.** -/
theorem standsFor_iff {v : Json} {p : Property} : StandsFor v p ↔ p = ofJson v := by
  -- The induction is on the value: what an array or an object stands for is told by what is inside.
  induction v using Json.nested_induction generalizing p with
  | null => exact ⟨fun h => by cases h; rfl, fun h => h ▸ .absent⟩
  | bool b => exact ⟨fun h => by cases h; rfl, fun h => h ▸ .bool b⟩
  | number n => exact ⟨fun h => by cases h; rfl, fun h => h ▸ .number n⟩
  | string s => exact ⟨fun h => by cases h; rfl, fun h => h ▸ .text s⟩
  | array items ih =>
    have hitems (values : List Property) :
        List.Forall₂ StandsFor items values ↔ values = itemsOfJson items :=
      forall₂_standsFor_iff fun item hitem _ => ih item hitem
    constructor
    · intro h
      cases h with
      | list h => rw [ofJson, (hitems _).1 h]
    · rintro rfl
      rw [ofJson]
      exact .list ((hitems _).2 rfl)
  | object members ih =>
    have hvalues (entries : List (String × Property)) :
        (∀ entry ∈ entries, ∀ v, IsLast members entry.1 v → StandsFor v entry.2) ↔
          ∀ entry ∈ entries, ∀ v, IsLast members entry.1 v → entry.2 = ofJson v :=
      forall₄_congr fun entry _ v hv => ih (entry.1, v) hv.mem
    refine ofJson_object_cases members (fun q hq => ?_) fun hplain => ?_
    · constructor
      · intro h
        cases h with
        | encoded h => rw [← ofJson_object_of_encodes h, ofJson_object_of_encodes hq]
        | object hplain => exact absurd hq (hplain q)
      · rintro rfl
        exact .encoded hq
    · constructor
      · intro h
        cases h with
        | encoded h => exact absurd h (hplain p)
        | object _ hnames h => rw [eq_membersOfJson_iff.2 ⟨hnames, (hvalues _).1 h⟩]
      · rintro rfl
        obtain ⟨hnames, h⟩ := eq_membersOfJson_iff.1 (Eq.refl (membersOfJson [] members))
        exact .object hplain hnames ((hvalues _).2 h)

/-! ## Decoding -/

/-- **A property is decoded from a node exactly if the node is the tree of a value that stands for
the property and nests no deeper than levels may be opened.** -/
theorem decoder_eq_ok_iff {room : Nat} {node : Node} {p : Property} :
    decoder room node = .ok p ↔ ∃ v, node = v.toNode ∧ v.depth ≤ room ∧ StandsFor v p := by
  unfold decoder
  rw [Json.map_eq_ok]
  constructor
  · rintro ⟨v, hv, rfl⟩
    obtain ⟨rfl, hdepth⟩ := Node.eq_toNode_of_value hv
    exact ⟨v, rfl, hdepth, standsFor_iff.2 rfl⟩
  · rintro ⟨v, rfl, hdepth, h⟩
    refine ⟨v, ?_, (standsFor_iff.1 h).symm⟩
    rw [Decoder.value_toNode, Json.within, if_pos hdepth]

/-- What is decoded from a text is what the value in the text stands for. -/
theorem fromText_eq_ok {text : String} {v : Json} {p : Property} (hparse : Json.parse text = .ok v)
    (h : StandsFor v p) : decoder.fromText text = .ok p := by
  have hmap := Decoder.fromText_map Decoder.value ofJson text
  rw [standsFor_iff.1 h]
  exact hmap.trans (Json.map_eq_ok.2 ⟨v, hparse, rfl⟩)

/-! ## Keys that do not matter -/

/-- The keys that captured failures and file collections are encoded with. -/
def reservedKeys : List String := ["error", "unresolved", "files"]

/-- Members encode the same if they have the same members with reserved keys. -/
theorem encodes_congr {members members' : List (String × Json)}
    (h : members.filter (·.1 ∈ reservedKeys) = members'.filter (·.1 ∈ reservedKeys))
    (p : Property) :
    Encodes members p ↔ Encodes members' p := by
  have hfilter (key : String) (hkey : key ∈ reservedKeys) (members : List (String × Json)) :
      members.filter (·.1 = key) = (members.filter (·.1 ∈ reservedKeys)).filter (·.1 = key) := by
    rw [List.filter_filter]
    refine List.filter_congr fun member _ => ?_
    rw [← Bool.decide_and]
    exact decide_eq_decide.2 ⟨fun heq => ⟨heq, heq ▸ hkey⟩, And.left⟩
  have honly (key : String) (hkey : key ∈ reservedKeys) :
      onlyMember? key members = onlyMember? key members' := by
    unfold onlyMember?
    rw [hfilter key hkey, hfilter key hkey members', h]
  rw [encodes_iff, encodes_iff]
  unfold reserved?
  rw [honly "error" (by decide), honly "unresolved" (by decide), honly "files" (by decide)]

/-- **Every value is decoded as the one property that it stands for**, wherever as many levels may
be opened as it nests, and from every text of it.  Members of an object whose keys are not reserved
have no part in what the object encodes. -/
theorem every_value_decodes {v : Json} (hintegral : v.IsIntegral) (hdepth : v.depth ≤ 127) :
    ∃ p, (∀ q, StandsFor v q ↔ q = p) ∧
      (∀ room, v.depth ≤ room → decoder room v.toNode = .ok p) ∧
      (∀ layout : Layout, decoder.fromText (v.toText layout) = .ok p) ∧
      (∀ text, Json.parse text = .ok v → decoder.fromText text = .ok p) ∧
      ∀ members members', v = .object members →
        members.filter (·.1 ∈ reservedKeys) = members'.filter (·.1 ∈ reservedKeys) →
        ∀ q, Encodes members q ↔ Encodes members' q := by
  have hread : decoder.Reads v (ofJson v) := (Decoder.reads_value v).map ofJson
  refine ⟨ofJson v, fun q => standsFor_iff, fun room hroom => ?_,
    hread.fromText_toText hintegral hdepth,
    fun text hparse => fromText_eq_ok hparse (standsFor_iff.2 rfl),
    fun members members' _ h q => encodes_congr h q⟩
  exact decoder_eq_ok_iff.2 ⟨v, rfl, hroom, standsFor_iff.2 rfl⟩

namespace MixedKeys

/-- An array of two objects with reserved keys: in one of them `error` occurs twice and `unresolved`
once, in the other the values have other forms, and another key is repeated. -/
def value : Json :=
  .array
    [.object
      [("error", .string "boom"), ("unresolved", .string "offline"), ("error", .string "again"),
       ("files", .array [])],
     .object
      [("name", .null), ("error", .bool true), ("files", .array [.string "a.jar", .null]),
       ("name", .string "main")]]

/-- What it is decoded as. -/
def property : Property :=
  .list
    [.unresolved "offline",
     .object
      [("name", .text "main"), ("error", .bool true), ("files", .list [.text "a.jar", .absent])]]

end MixedKeys

/-- The only string at a reserved key decides, and members of other forms stay members. -/
theorem mixedKeys_decode : MixedKeys.value.IsIntegral ∧ MixedKeys.value.depth ≤ 127 ∧
    decoder.fromText (MixedKeys.value.toText .pretty) = .ok MixedKeys.property := by
  have hintegral : MixedKeys.value.IsIntegral := by
    simp [MixedKeys.value, Json.IsIntegral, Json.ItemsIntegral, Json.MembersIntegral]
  have hdepth : MixedKeys.value.depth ≤ 127 := by decide
  obtain ⟨p, hp, -, htext, -⟩ := every_value_decodes hintegral hdepth
  have heq : MixedKeys.property = p := (hp _).1 (standsFor_iff.2 rfl)
  exact ⟨hintegral, hdepth, heq ▸ htext .pretty⟩

end CompositeBuild.Property
