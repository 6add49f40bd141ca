/-
# Writing and reading dumps

A dump is read from its text as it was written, except that objects inside the properties of its
tasks may be taken for what their reserved keys stand for (`Dump.fromText_toText`).  So it comes
back exactly if none of these objects is confusable (`Dump.read_back_iff`).
-/
import CompositeBuild.Proofs.Dump.Records

namespace CompositeBuild.Dump

open Json (Decoder Layout)

/-! ## The properties in a dump -/

/-- The properties of the tasks of a dump, with everything inside them. -/
def propertyNodes (d : Dump) : List Property :=
  d.tasks.flatMap fun t => (t.properties.map (·.2)).flatMap Property.nodes

variable {d : Dump}

/-- What holds of all properties in a dump holds of everything in each property of its tasks. -/
theorem forall_mem_propertyNodes {Q : Property → Prop} :
    (∀ q ∈ d.propertyNodes, Q q) ↔
      ∀ t ∈ d.tasks, ∀ value ∈ t.properties.map (·.2), ∀ q ∈ value.nodes, Q q := by
  simp only [propertyNodes, List.forall_mem_flatMap]

/-- The names in each property of a task are distinct. -/
theorem namesDistinct_of_mem_tasks {t : Task} {value : Property}
    (hvalue : value ∈ t.properties.map (·.2)) : value.NamesDistinct := by
  obtain ⟨entry, hentry, rfl⟩ := List.mem_map.1 hvalue
  exact (Property.namesDistinct_object_iff.1 t.distinct).2 entry hentry

/-- What is read is the dump exactly if no object in its properties is confusable. -/
theorem reread_eq_iff_not_confusable :
    d.reread = d ↔ ∀ q ∈ d.propertyNodes, q.isConfusable = false := by
  rw [reread_eq_self_iff, forall_mem_propertyNodes]
  exact forall₂_congr fun _ _ => forall₂_congr fun _ hvalue =>
    Property.reread_eq_self_iff (namesDistinct_of_mem_tasks hvalue)

/-! ## The round trip -/

/-- **A dump is read from its text with the properties of its tasks as what their JSON forms stand
for**, if it holds no doubles and does not nest too deep for a text. -/
theorem fromText_toText (hintegral : ∀ q ∈ d.propertyNodes, q.isDouble = false)
    (hdepth : d.toJson.depth ≤ Decoder.textRoom) (layout : Layout) :
    decoder.fromText (d.toJson.toText layout) = .ok d.reread := by
  have htasks : ∀ t ∈ d.tasks, t.toJson.IsIntegral := fun t ht =>
    Task.isIntegral_toJson (forall_mem_propertyNodes.1 hintegral t ht)
  exact d.reads_toJson.fromText_toText (isIntegral_toJson htasks) hdepth layout

/-- **Reading back a dump.** A dump that holds no doubles and nests at most 127 levels is always
read from its text.  It is read as it was written exactly if no object in a property of a task, at
any depth, is confusable.  The properties of a task may have reserved names themselves. -/
theorem read_back_iff (hintegral : ∀ q ∈ d.propertyNodes, q.isDouble = false)
    (hdepth : d.toJson.depth ≤ 127) (layout : Layout) :
    ∃ d', decoder.fromText (d.toJson.toText layout) = .ok d' ∧
      (d' = d ↔ ∀ q ∈ d.propertyNodes, q.isConfusable = false) :=
  ⟨_, fromText_toText hintegral hdepth layout, reread_eq_iff_not_confusable⟩

/-! ## Reserved names in a dump -/

namespace ReservedNames

/-- A dump with the given task only. -/
def dump (jar : Task) : Dump where
  gradleVersion := "8.5"
  rootBuild := some "App"
  builds :=
    [⟨"App", none, none,
      [⟨"App", ":", some ⟨"/app"⟩, ⟨[("jar", jar)], List.nodup_singleton _⟩, none, .none⟩],
      ["App"], []⟩]
  editableBuilds := []

/-- A task whose properties have reserved names, one of them an object whose reserved keys have
values of other forms. -/
def harmless : Task where
  archive := true
  properties :=
    [("error", .text "none"), ("files", .list [.text "a"]), ("unresolved", .failed "offline"),
     ("nested", .list [.object [("error", .bool true), ("files", .list [.text "a", .absent])]])]
  distinct := by decide
  outputs := [⟨"a.jar"⟩]

/-- A task with a property that holds an object with an empty list at `files`. -/
def harmful : Task where
  archive := true
  properties := [("nested", .list [.object [("files", .list []), ("more", .absent)]])]
  distinct := by decide
  outputs := [⟨"a.jar"⟩]

end ReservedNames

/-- Reserved names of the properties of a task do no harm, and neither do reserved keys with values
of other forms; an object with an empty list of files is not read as it was written. -/
theorem read_back_of_reservedNames :
    decoder.fromText ((ReservedNames.dump ReservedNames.harmless).toJson.toText .compact) =
        .ok (ReservedNames.dump ReservedNames.harmless) ∧
      ∃ d', decoder.fromText ((ReservedNames.dump ReservedNames.harmful).toJson.toText .pretty) =
          .ok d' ∧ d' ≠ ReservedNames.dump ReservedNames.harmful := by
  constructor
  · obtain ⟨d', hread, hiff⟩ := read_back_iff (d := ReservedNames.dump ReservedNames.harmless)
      (by decide) (by decide) .compact
    rwa [hiff.2 (by decide)] at hread
  · obtain ⟨d', hread, hiff⟩ := read_back_iff (d := ReservedNames.dump ReservedNames.harmful)
      (by decide) (by decide) .pretty
    exact ⟨d', hread, fun heq => absurd (hiff.1 heq) (by decide)⟩

end CompositeBuild.Dump
