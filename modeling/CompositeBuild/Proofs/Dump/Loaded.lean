/-
# Dumps that were loaded

Each property of a task in a dump that was loaded stands for a JSON value in the text, at least
eight levels below the top (`Dump.comesFrom_of_decoder`).
-/
import CompositeBuild.Proofs.Dump.RoundTrip
import CompositeBuild.Proofs.Property.Decoded

namespace CompositeBuild

open Json (Decoder Node)

/-! ## Property maps -/

/-- The tree of the value has the property, and the value nests no deeper than levels may be opened
below some others. -/
def StandsBelow (P : Node → Prop) (levels room : Nat) (v : Json) : Prop :=
  P v.toNode ∧ v.depth + levels ≤ room

/-- Each of the properties is what a value with the condition stands for. -/
def PropertyMap.ComesFrom (P : Json → Prop) (m : PropertyMap) : Prop :=
  ∀ value ∈ m.map (·.2), ∃ v, P v ∧ Property.ofJson v = value

section Loading

variable {P : Node → Prop} (hP : ∀ node, P node → node.Each P) {levels room : Nat} {node : Node}
  (hnode : P node)

/-- Properties that come from below come from one level further up too. -/
theorem PropertyMap.ComesFrom.up {m : PropertyMap} (h : m.ComesFrom (StandsBelow P levels room)) :
    m.ComesFrom (StandsBelow P (levels + 1) (room + 1)) := by
  intro value hvalue
  obtain ⟨v, ⟨hv, hdepth⟩, heq⟩ := h value hvalue
  exact ⟨v, ⟨hv, Nat.succ_le_succ hdepth⟩, heq⟩

include hP hnode

/-- A property map that was decoded comes from values one level below. -/
theorem PropertyMap.comesFrom_of_decoder
    {m : { m : PropertyMap // (Property.object m).NamesDistinct }}
    (h : decoder room node = .ok m) : PropertyMap.ComesFrom (StandsBelow P 1 room) m.1 := by
  obtain ⟨members, hmembers, rfl⟩ := Json.map_eq_ok.1 h
  obtain ⟨below, rfl, heach⟩ := Decoder.entries_eq_ok (hP node hnode) hmembers
  refine List.forall_mem_map.2 fun entry hentry => ?_
  obtain ⟨member, hmember, heq⟩ := List.mem_map.1 (mem_foldl_putEntry_iff.1 hentry).mem
  obtain ⟨node, hnode, hvalue⟩ := heach member hmember
  obtain ⟨rfl, hdepth⟩ := Node.eq_toNode_of_value hvalue
  exact ⟨member.2, ⟨hnode, Nat.succ_le_succ hdepth⟩, (Prod.mk.inj heq).2⟩

namespace Dump

/-! ## The records of a dump -/

/-- The properties of a task that was decoded come from values two levels below. -/
theorem Task.comesFrom_of_decoder {t : Task} (h : decoder room node = .ok t) :
    t.properties.ComesFrom (StandsBelow P 2 room) := by
  obtain ⟨below, ⟨archive, properties, outputs, ⟨⟩⟩, rfl, ⟨-, hproperties, -⟩, rfl⟩ :=
    Decoder.record_eq_ok (hP node hnode) h
  rcases Json.Field.yields_defaulted hproperties with rfl | ⟨node, hnode, hproperties⟩
  · exact nofun
  · exact (PropertyMap.comesFrom_of_decoder hP hnode hproperties).up

/-- The properties of the tasks of a project that was decoded come from values four levels below. -/
theorem Project.comesFrom_of_decoder {p : Project} (h : decoder room node = .ok p) :
    ∀ t ∈ p.taskList, t.properties.ComesFrom (StandsBelow P 4 room) := by
  obtain ⟨below, ⟨name, path, projectDir, tasks, sourceSets, failures, ⟨⟩⟩, rfl,
    ⟨-, -, -, htasks, -⟩, rfl⟩ := Decoder.record_eq_ok (hP node hnode) h
  refine List.forall_mem_map.2 fun entry hentry => ?_
  rcases Json.Field.yields_defaulted htasks with rfl | ⟨node, hnode, htasks⟩
  · exact absurd hentry List.not_mem_nil
  · obtain ⟨entries, hentries, rfl⟩ := Json.map_eq_ok.1 htasks
    obtain ⟨below, rfl, heach⟩ := Decoder.entries_eq_ok (hP node hnode) hentries
    -- A task whose name is repeated is kept once only, so what is kept was decoded.
    obtain ⟨node, hnode, htask⟩ := heach entry (InsertionMap.mem_of_mem_ofList hentry)
    exact (Task.comesFrom_of_decoder hP hnode htask).up.up

/-- The properties of the tasks of a build that was decoded come from values six levels below. -/
theorem Build.comesFrom_of_decoder {b : Build} (h : decoder room node = .ok b) :
    ∀ t ∈ b.tasks, t.properties.ComesFrom (StandsBelow P 6 room) := by
  obtain ⟨below, ⟨name, rootDir, languageLevel, projects, includedBuilds, failures, ⟨⟩⟩, rfl,
    ⟨-, -, -, hprojects, -⟩, rfl⟩ := Decoder.record_eq_ok (hP node hnode) h
  refine List.forall_mem_flatMap.2 fun p hp t ht => ?_
  rcases Json.Field.yields_defaulted hprojects with rfl | ⟨node, hnode, hprojects⟩
  · exact absurd hp List.not_mem_nil
  · obtain ⟨below, rfl, heach⟩ := Decoder.list_eq_ok (hP node hnode) hprojects
    obtain ⟨node, hnode, hproject⟩ := heach p hp
    exact (Project.comesFrom_of_decoder hP hnode hproject t ht).up.up

/-- **The properties of the tasks of a dump that was decoded come from values eight levels
below.** -/
theorem comesFrom_of_decoder {d : Dump} (h : decoder room node = .ok d) :
    ∀ t ∈ d.tasks, t.properties.ComesFrom (StandsBelow P 8 room) := by
  obtain ⟨below, ⟨gradleVersion, rootBuild, builds, editableBuilds, ⟨⟩⟩, rfl, ⟨-, -, hbuilds, -⟩,
    rfl⟩ := Decoder.record_eq_ok (hP node hnode) h
  refine List.forall_mem_flatMap.2 fun b hb t ht => ?_
  obtain ⟨node, hnode, hbuilds⟩ := Json.Field.yields_required hbuilds
  obtain ⟨below, rfl, heach⟩ := Decoder.list_eq_ok (hP node hnode) hbuilds
  obtain ⟨node, hnode, hbuild⟩ := heach b hb
  exact (Build.comesFrom_of_decoder hP hnode hbuild t ht).up.up

end Dump

end Loading

end CompositeBuild
