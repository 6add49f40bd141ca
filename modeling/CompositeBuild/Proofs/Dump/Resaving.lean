/-
# Saving a loaded dump again

A dump that was loaded can be saved and loaded again.  What comes back is the dump exactly if no
object in its properties is confusable, and these objects come only from texts in which an object
has a reserved key twice (`Dump.resaved_iff`).
-/
import CompositeBuild.Proofs.Dump.Loaded

namespace CompositeBuild.Dump

open Json (Decoder Layout Node)

/-! ## What was loaded -/

section Loaded

variable {text : String} {d : Dump} (h : decoder.fromText text = .ok d)
include h

/-- The properties of the tasks of a dump that was loaded come from values in the text, eight levels
below the top. -/
theorem comesFrom_of_fromText {P : Node → Prop} (hP : ∀ node, P node → node.Each P)
    (htext : P (Json.readText text.toList).1) :
    ∀ t ∈ d.tasks, t.properties.ComesFrom (StandsBelow P 8 Decoder.textRoom) :=
  comesFrom_of_decoder hP htext (Decoder.eq_ok_of_fromText_eq_ok h)

/-- What holds of everything in what any value stands for holds of all properties in a dump that was
loaded. -/
theorem forall_mem_propertyNodes_of_fromText {P : Node → Prop} {Q : Property → Prop}
    (hP : ∀ node, P node → node.Each P) (htext : P (Json.readText text.toList).1)
    (hQ : ∀ v : Json, P v.toNode → ∀ q ∈ (Property.ofJson v).nodes, Q q) :
    ∀ q ∈ d.propertyNodes, Q q := by
  refine forall_mem_propertyNodes.2 fun t ht value hvalue => ?_
  obtain ⟨v, ⟨hv, -⟩, rfl⟩ := comesFrom_of_fromText h hP htext t ht value hvalue
  exact hQ v hv

/-- **A dump that was loaded nests no deeper than a text may.** -/
theorem depth_le_of_fromText : d.toJson.depth ≤ 127 := by
  have hfrom := comesFrom_of_fromText h (fun node _ => node.each_true) trivial
  refine depth_toJson_le_iff (n := 119).2 fun t ht value hvalue => ?_
  obtain ⟨v, ⟨-, hdepth⟩, rfl⟩ := hfrom t ht value hvalue
  exact Nat.le_trans (Property.depth_toJson_ofJson_le v) (Nat.le_of_add_le_add_right hdepth)

/-- No object in the properties of a dump that was loaded is confusable if no object in the text has
a reserved key twice. -/
theorem forall_isConfusable_of_fromText
    (htext : ∀ keys ∈ Json.objectKeys text, ∀ key ∈ Property.reservedKeys, keys.count key ≤ 1) :
    ∀ q ∈ d.propertyNodes, q.isConfusable = false :=
  forall_mem_propertyNodes_of_fromText h (fun _ => Node.each_of_objectKeys) htext
    fun _ => Property.forall_isConfusable_eq_false

end Loaded

/-! ## What was loaded again -/

section Again

variable {d : Dump}

/-- The tasks of a project that is read again. -/
theorem Project.taskList_reread (p : Project) : p.reread.taskList = p.taskList.map Task.reread := by
  unfold taskList reread InsertionMap.mapValues
  rw [List.map_map, List.map_map]
  rfl

/-- The tasks of a build that is read again. -/
theorem Build.tasks_reread (b : Build) : b.reread.tasks = b.tasks.map Task.reread := by
  unfold tasks reread
  rw [List.flatMap_map, List.map_flatMap]
  simp only [Project.taskList_reread]

/-- The tasks of a dump that is read again. -/
theorem tasks_reread : d.reread.tasks = d.tasks.map Task.reread := by
  unfold tasks reread
  rw [List.flatMap_map, List.map_flatMap]
  simp only [Build.tasks_reread]

/-- What holds of all properties in a dump that is read again holds of everything in each property
as it is read. -/
theorem forall_mem_propertyNodes_reread {Q : Property → Prop} :
    (∀ q ∈ d.reread.propertyNodes, Q q) ↔
      ∀ t ∈ d.tasks, ∀ value ∈ t.properties.map (·.2), ∀ q ∈ value.reread.nodes, Q q := by
  rw [forall_mem_propertyNodes, tasks_reread, List.forall_mem_map]
  refine forall₂_congr fun t _ => ?_
  show (∀ value ∈ (t.properties.mapValues Property.reread).map (·.2), _) ↔ _
  rw [PropertyMap.mapValues, List.forall_mem_map, List.forall_mem_map, List.forall_mem_map]

end Again

/-- **Saving a loaded dump again.**  A dump without doubles that was loaded from any text can be
saved in either layout and loaded again.  The same dump comes back exactly if no object in a
property of a task, at any depth, is confusable; this is so if no object in the text has a reserved
key twice.  What came back is from then on saved and loaded as it is. -/
theorem resaved_iff {text : String} {d : Dump} (h : decoder.fromText text = .ok d)
    (hintegral : ∀ q ∈ d.propertyNodes, q.isDouble = false) (layout : Layout) :
    ∃ d', decoder.fromText (d.toJson.toText layout) = .ok d' ∧
      (d' = d ↔ ∀ q ∈ d.propertyNodes, q.isConfusable = false) ∧
      ((∀ keys ∈ Json.objectKeys text, ∀ key ∈ Property.reservedKeys, keys.count key ≤ 1) →
        d' = d) ∧
      ∀ layout', decoder.fromText (d'.toJson.toText layout') = .ok d' := by
  have hagain := fromText_toText hintegral (depth_le_of_fromText h) layout
  refine ⟨_, hagain, reread_eq_iff_not_confusable,
    fun htext => reread_eq_iff_not_confusable.2 (forall_isConfusable_of_fromText h htext),
    fun layout' => ?_⟩
  -- What came back was loaded itself, and its properties have been read again once, so that nothing
  -- in them is confusable any more.
  have hintegral' : ∀ q ∈ d.reread.propertyNodes, q.isDouble = false := by
    refine forall_mem_propertyNodes_reread.2 fun t ht value hvalue => ?_
    refine Property.forall_isDouble_eq_false (value.isIntegral_toJson_iff.2 ?_)
    exact forall_mem_propertyNodes.1 hintegral t ht value hvalue
  have hconfusable : ∀ q ∈ d.reread.propertyNodes, q.isConfusable = false :=
    forall_mem_propertyNodes_reread.2 fun _ _ _ hvalue =>
      Property.forall_isConfusable_reread (namesDistinct_of_mem_tasks hvalue)
  have hback := fromText_toText hintegral' (depth_le_of_fromText hagain) layout'
  rwa [reread_eq_iff_not_confusable.2 hconfusable] at hback

/-! ## A plugin option with repeated keys -/

namespace PluginOption

/-- A plugin option in a task. -/
abbrev Captured : Type := { option : Property // option.NamesDistinct }

/-- The plugin option that a JSON value stands for. -/
def captured (option : Json) : Captured :=
  ⟨Property.ofJson option, Property.namesDistinct_ofJson option⟩

/-- The names in a list of one plugin option are distinct. -/
theorem namesDistinct_options (option : Captured) :
    (Property.object [("pluginOptions", .list [option])]).NamesDistinct :=
  Property.namesDistinct_object_iff.2 ⟨List.nodup_singleton _, List.forall_mem_singleton.2
    (Property.namesDistinct_list_iff.2 (List.forall_mem_singleton.2 option.2))⟩

/-- A compile task with one plugin option. -/
def task (option : Captured) : Task :=
  ⟨false, [("pluginOptions", .list [option])], namesDistinct_options option, []⟩

/-- A project with that task. -/
def project (option : Captured) : Project :=
  ⟨"App", ":", none, ⟨[("compileKotlin", task option)], List.nodup_singleton _⟩, none, .none⟩

/-- A build with that project. -/
def build (option : Captured) : Build := ⟨"App", none, none, [project option], [], []⟩

/-- A dump with that build. -/
def dump (option : Captured) : Dump := ⟨"8.5", none, [build option], []⟩

section Reading

variable (option : Json)

/-- The task in JSON, with an option of any form. -/
def taskJson : Json := .object [("properties", .object [("pluginOptions", .array [option])])]

/-- The project in JSON. -/
def projectJson : Json :=
  .object
    [("name", .string "App"), ("path", .string ":"),
     ("tasks", .object [("compileKotlin", taskJson option)])]

/-- The build in JSON. -/
def buildJson : Json :=
  .object [("name", .string "App"), ("projects", .array [projectJson option])]

/-- The dump in JSON. -/
def json : Json :=
  .object [("gradleVersion", .string "8.5"), ("builds", .array [buildJson option])]

/-- The task is read with what the form of its option stands for. -/
theorem reads_taskJson : Task.decoder.Reads (taskJson option) (task (captured option)) := by
  have hproperties := (@Decoder.reads_entries_map Json Json Decoder.value id id
    [("pluginOptions", .array [option])] fun entry _ => Decoder.reads_value entry.2).map
      PropertyMap.ofMembers
  exact Decoder.reads_record
    (fun room => .absent rfl <| .member (hproperties room) <| .absent rfl .nil)
    rfl fun _ => (by decide : ["archive", "properties", "outputs"].Nodup)

/-- The project is read with that task. -/
theorem reads_projectJson :
    Project.decoder.Reads (projectJson option) (project (captured option)) := by
  have htasks := (@Decoder.reads_entries _ Task.decoder (fun _ => taskJson option)
    [("compileKotlin", task (captured option))]
    (List.forall_mem_singleton.2 (reads_taskJson option))).map InsertionMap.ofList
  exact Decoder.reads_record
    (fun room =>
      .member (Decoder.reads_string "App" room) <|
      .member (Decoder.reads_string ":" room) <|
      .absent rfl <|
      .member (htasks room) <|
      .absent rfl <| .absent rfl .nil)
    rfl fun _ =>
      (by decide : ["name", "path", "projectDir", "tasks", "sourceSets", "failures"].Nodup)

/-- The build is read with that project. -/
theorem reads_buildJson :
    Build.decoder.Reads (buildJson option) (build (captured option)) := by
  have hprojects : ∀ p ∈ [project (captured option)],
      Project.decoder.Reads (projectJson option) p :=
    List.forall_mem_singleton.2 (reads_projectJson option)
  exact Decoder.reads_record
    (fun room =>
      .member (Decoder.reads_string "App" room) <|
      .absent rfl <| .absent rfl <|
      .member (Decoder.reads_list hprojects room) <|
      .absent rfl <| .absent rfl .nil)
    rfl fun _ =>
      (by decide : ["name", "rootDir", "languageLevel", "projects", "includedBuilds",
        "failures"].Nodup)

/-- The dump is read with that build. -/
theorem reads_json : decoder.Reads (json option) (dump (captured option)) := by
  have hbuilds : ∀ b ∈ [build (captured option)],
      Build.decoder.Reads (buildJson option) b :=
    List.forall_mem_singleton.2 (reads_buildJson option)
  exact Decoder.reads_record
    (fun room =>
      .member (Decoder.reads_string "8.5" room) <|
      .absent rfl <|
      .member (Decoder.reads_list hbuilds room) <|
      .absent rfl .nil)
    rfl fun _ => (by decide : ["gradleVersion", "rootBuild", "builds", "editableBuilds"].Nodup)

/-- The dump is loaded from the text of its JSON form. -/
theorem fromText_json (hintegral : option.IsIntegral) (hdepth : option.depth ≤ 118) :
    decoder.fromText ((json option).toText .compact) = .ok (dump (captured option)) := by
  have hjson : (json option).depth = option.depth + 9 := by
    simp [json, buildJson, projectJson, taskJson, Json.depth, Json.depthOfItems,
      Json.depthOfMembers]
  have hroom : (json option).depth ≤ 127 := by omega
  refine (reads_json option).fromText_toText ?_ hroom .compact
  simp [json, buildJson, projectJson, taskJson, Json.IsIntegral, Json.MembersIntegral,
    Json.ItemsIntegral, hintegral]

end Reading

/-- An option with a repeated key and with `error` once. -/
def plain : Json :=
  .object [("arguments", .null), ("error", .bool true), ("arguments", .array [.string "-P"])]

/-- What the option with `error` once is loaded as. -/
def loadedPlain : Captured :=
  ⟨.object [("arguments", .list [.text "-P"]), ("error", .bool true)], by decide⟩

/-- An option with `error` twice. -/
def repeating : Json :=
  .object [("error", .string "a"), ("error", .string "b"), ("arguments", .array [.string "-P"])]

/-- What the option with `error` twice is loaded as. -/
def loadedRepeating : Captured :=
  ⟨.object [("error", .text "b"), ("arguments", .list [.text "-P"])], by decide⟩

/-- What it comes back as. -/
def resavedRepeating : Captured := ⟨.failed "b", by decide⟩

/-- The dump with `error` once is loaded. -/
theorem fromText_plain : decoder.fromText ((json plain).toText .compact) = .ok (dump loadedPlain) :=
  fromText_json plain
    (by simp [plain, Json.IsIntegral, Json.MembersIntegral, Json.ItemsIntegral]) (by decide)

/-- The dump with `error` twice is loaded too. -/
theorem fromText_repeating :
    decoder.fromText ((json repeating).toText .compact) = .ok (dump loadedRepeating) :=
  fromText_json repeating
    (by simp [repeating, Json.IsIntegral, Json.MembersIntegral, Json.ItemsIntegral]) (by decide)

end PluginOption

/-- A dump comes back if no reserved key is repeated in its text, though another key is. -/
theorem resaved_of_plain :
    decoder.fromText ((PluginOption.json PluginOption.plain).toText .compact) =
        .ok (PluginOption.dump PluginOption.loadedPlain) ∧
      (∀ q ∈ (PluginOption.dump PluginOption.loadedPlain).propertyNodes, q.isDouble = false) ∧
      decoder.fromText ((PluginOption.dump PluginOption.loadedPlain).toJson.toText .pretty) =
        .ok (PluginOption.dump PluginOption.loadedPlain) := by
  have hintegral : ∀ q ∈ (PluginOption.dump PluginOption.loadedPlain).propertyNodes,
      q.isDouble = false := by decide
  obtain ⟨d', hagain, hiff, -, -⟩ := resaved_iff PluginOption.fromText_plain hintegral .pretty
  rw [hiff.2 (by decide)] at hagain
  exact ⟨PluginOption.fromText_plain, hintegral, hagain⟩

/-- An option with `error` twice is loaded as an object and comes back as a captured failure. -/
theorem resaved_option_is_lost :
    decoder.fromText ((PluginOption.json PluginOption.repeating).toText .compact) =
        .ok (PluginOption.dump PluginOption.loadedRepeating) ∧
      (∀ q ∈ (PluginOption.dump PluginOption.loadedRepeating).propertyNodes, q.isDouble = false) ∧
      decoder.fromText ((PluginOption.dump PluginOption.loadedRepeating).toJson.toText .compact) =
        .ok (PluginOption.dump PluginOption.resavedRepeating) ∧
      PluginOption.dump PluginOption.resavedRepeating ≠
        PluginOption.dump PluginOption.loadedRepeating := by
  have hload := PluginOption.fromText_repeating
  have hintegral : ∀ q ∈ (PluginOption.dump PluginOption.loadedRepeating).propertyNodes,
      q.isDouble = false := by decide
  have hagain := fromText_toText hintegral (depth_le_of_fromText hload) .compact
  have hreread : (PluginOption.dump PluginOption.loadedRepeating).reread =
      PluginOption.dump PluginOption.resavedRepeating := rfl
  rw [hreread] at hagain
  refine ⟨hload, hintegral, hagain, fun heq => ?_⟩
  have hlength := congrArg (fun d => d.propertyNodes.length) heq
  exact absurd hlength (by decide)

end CompositeBuild.Dump
