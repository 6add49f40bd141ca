/-
# Two commands on one dump

Of the settings of an aggregation only the strategy of discovery has a part in the snapshot
(`sameSnapshot_aggregated`), and the keys of the source sets in a snapshot are its module ids.  So
the command that lists the ids of a dump and the one that exports it describe the same workspace,
whatever the settings of the export are (`ids_describe_export`).
-/
import CompositeBuild.Cli.Run
import CompositeBuild.Proofs.Aggregation.KeySets
import CompositeBuild.Proofs.Workspace.Outcomes

namespace CompositeBuild

/-! ## The snapshot of a dump file -/

/-- The snapshot of an outcome depends on no other setting than the strategy of discovery. -/
theorem Host.snapshot_outcome_eq (host : Host) {config₁ config₂ : AggregationConfig}
    (hstrategy : config₁.strategy = config₂.strategy) (root : Project) :
    (host.outcome config₁ root).snapshot = (host.outcome config₂ root).snapshot := by
  have hrefs : host.visitedRefs config₁ root = host.visitedRefs config₂ root := by
    unfold visitedRefs AggregationConfig.strategyFor
    rw [hstrategy]
  have hprojects : host.composedProjects config₁ root = host.composedProjects config₂ root := by
    unfold composedProjects
    rw [hrefs]
  unfold outcome
  rw [hprojects]

/-- Two runs end with the same error or with the same snapshot. -/
inductive SameSnapshot : Except RunError Aggregation → Except RunError Aggregation → Prop
  | failed (e : RunError) : SameSnapshot (.error e) (.error e)
  | succeeded {a₁ a₂ : Aggregation} : a₁.snapshot = a₂.snapshot → SameSnapshot (.ok a₁) (.ok a₂)

namespace SameSnapshot

variable {r₁ r₂ : Except RunError Aggregation}

/-- Of two runs with the same end, one fails exactly if the other does. -/
theorem eq_error_iff (h : SameSnapshot r₁ r₂) (e : RunError) : r₁ = .error e ↔ r₂ = .error e := by
  cases h with
  | failed => rfl
  | succeeded => exact ⟨nofun, nofun⟩

/-- The snapshot of a run is that of any other with the same end. -/
theorem exists_eq_ok {a : Aggregation} (h : SameSnapshot r₁ (.ok a)) :
    ∃ diagnostics, r₁ = .ok ⟨a.snapshot, diagnostics⟩ := by
  cases h with
  | @succeeded a₁ _ hsnapshot => exact ⟨a₁.diagnostics, by rw [← hsnapshot]⟩

end SameSnapshot

section Content

variable {path : Path} {content : ByteArray}

/-- The snapshot of a content depends on no other setting than the strategy of discovery. -/
theorem sameSnapshot_aggregateContent {config₁ config₂ : AggregationConfig}
    (hstrategy : config₁.strategy = config₂.strategy) :
    SameSnapshot (aggregateContent path content config₁).value
      (aggregateContent path content config₂).value := by
  cases hload : Dump.load content with
  | error e =>
    rw [aggregateContent_of_load_error path config₁ hload,
      aggregateContent_of_load_error path config₂ hload]
    exact .failed e
  | ok c =>
    rw [aggregateContent_of_load_ok path config₁ hload,
      aggregateContent_of_load_ok path config₂ hload, Host.aggregate_value, Host.aggregate_value]
    cases (c.host .default).rootProject.model with
    | none => exact .failed _
    | some root => exact .succeeded (Host.snapshot_outcome_eq _ hstrategy root)

/-- The module ids of the snapshot of a content are the keys of its source sets. -/
theorem moduleIds_of_aggregateContent {config : AggregationConfig} {a : Aggregation}
    (h : (aggregateContent path content config).value = .ok a) :
    a.snapshot.moduleIds.toList = a.snapshot.sourceSets.keys := by
  cases hload : Dump.load content with
  | error e =>
    rw [aggregateContent_of_load_error path config hload] at h
    exact nomatch h
  | ok c =>
    rw [aggregateContent_of_load_ok path config hload] at h
    obtain ⟨a', ha', rfl⟩ : ∃ a', ((c.host .default).aggregate config).value = .ok a' ∧ a' = a := by
      cases hvalue : ((c.host .default).aggregate config).value with
      | error e => rw [hvalue] at h; exact nomatch h
      | ok a' => rw [hvalue] at h; exact ⟨a', rfl, Except.ok.inj h⟩
    obtain ⟨root, hroot, rfl⟩ := (c.host .default).aggregate_eq_ok_iff.1 ha'
    exact (Host.keysFollow_outcome hroot config).moduleIds

end Content

namespace FileTree

variable (t : FileTree)

/-- A file that cannot be read is not aggregated. -/
theorem aggregated_of_read_error {t : FileTree} {path : Path} {e : FileError}
    (hread : t.read path = .error e) (config : AggregationConfig) :
    t.aggregated path config = (.error (.file e), t) := by
  unfold aggregated
  rw [run_aggregateFile, hread]
  rfl

/-- The snapshot of a dump file depends on no other setting than the strategy of discovery. -/
theorem sameSnapshot_aggregated (path : Path) {config₁ config₂ : AggregationConfig}
    (hstrategy : config₁.strategy = config₂.strategy) :
    SameSnapshot (t.aggregated path config₁).1 (t.aggregated path config₂).1 := by
  cases hread : t.read path with
  | error e =>
    rw [aggregated_of_read_error hread, aggregated_of_read_error hread]
    exact .failed _
  | ok content =>
    rw [aggregated_of_read hread, aggregated_of_read hread]
    exact sameSnapshot_aggregateContent hstrategy

/-- The module ids of the snapshot of a dump file are the keys of its source sets. -/
theorem moduleIds_of_aggregated {path : Path} {config : AggregationConfig} {a : Aggregation}
    (h : (t.aggregated path config).1 = .ok a) :
    a.snapshot.moduleIds.toList = a.snapshot.sourceSets.keys := by
  cases hread : t.read path with
  | error e =>
    rw [aggregated_of_read_error hread] at h
    exact nomatch h
  | ok content =>
    rw [aggregated_of_read hread] at h
    exact moduleIds_of_aggregateContent h

/-- Aggregating a dump file leaves all files as they are. -/
theorem exists_run_aggregateFile (path : Path) (config : AggregationConfig) :
    ∃ events, (aggregateFile path config : StateM FileTree _).run t =
      (⟨(t.aggregated path config).1, events⟩, t) := by
  unfold aggregated
  rw [run_aggregateFile]
  exact ⟨_, rfl⟩

/-! ## Running commands -/

/-- The outcome of a command in a tree of files, and the tree after it. -/
def ran (command : Cli.Command) : Cli.Outcome × FileTree :=
  (command.run : StateM FileTree Cli.Outcome).run t

/-- Listing the ids of a dump gives those of its snapshot, each on a line, and changes no file. -/
theorem ran_listIds (dump : Path) :
    (t.ran (.listIds dump)).1.result = (t.aggregated dump .default).1.map (fun a =>
      (Cli.lines (a.snapshot.moduleIds.toList.map ModuleId.text), "")) ∧
    (t.ran (.listIds dump)).2 = t := by
  obtain ⟨events, hrun⟩ := t.exists_run_aggregateFile dump .default
  unfold ran Cli.Command.run Cli.listIds
  rw [StateT.run_bind, hrun]
  exact ⟨rfl, rfl⟩

/-! ## Exporting a snapshot -/

/-- What comes of a text that a command puts out: it is printed, or written to a file so that
nothing is printed. -/
def putOut (output : Option Path) (text : String) : Except FileError String × FileTree :=
  match output with
  | none => (.ok text, t)
  | some file => ((t.write file text.toUTF8).1.map fun _ => "", (t.write file text.toUTF8).2)

section Export

variable {settings : Cli.ExportSettings}

/-- A dump that is not aggregated is not exported. -/
theorem ran_export_of_error {e : RunError}
    (h : (t.aggregated settings.dump settings.config).1 = .error e) :
    (t.ran (.exportSnapshot settings)).1.result = .error e ∧
      (t.ran (.exportSnapshot settings)).2 = t := by
  obtain ⟨events, hrun⟩ := t.exists_run_aggregateFile settings.dump settings.config
  unfold ran Cli.Command.run Cli.exportSnapshot
  rw [StateT.run_bind, hrun, h]
  exact ⟨rfl, rfl⟩

/-- A snapshot is put out as its text. -/
theorem exists_run_putSnapshot (settings : Cli.ExportSettings) (s : Snapshot) :
    ∃ events, (Cli.putSnapshot s settings : StateM FileTree _).run t =
      (⟨(t.putOut settings.output (s.write settings.layout)).1, events⟩,
        (t.putOut settings.output (s.write settings.layout)).2) := by
  unfold Cli.putSnapshot
  cases settings.output with
  | none => exact ⟨_, rfl⟩
  | some file =>
    have hwrite :
        (FileStore.write file (s.write settings.layout).toUTF8 : StateM FileTree _).run t =
        t.write file (s.write settings.layout).toUTF8 := rfl
    unfold Snapshot.exportTo putOut
    dsimp only
    rw [bind_assoc, StateT.run_bind, hwrite]
    rcases t.write file (s.write settings.layout).toUTF8 with ⟨_ | _, t'⟩
    · exact ⟨_, rfl⟩
    · exact ⟨_, rfl⟩

/-- A dump that is aggregated is exported: the text of its snapshot is put out. -/
theorem ran_export_of_ok {a : Aggregation}
    (h : (t.aggregated settings.dump settings.config).1 = .ok a) :
    (t.ran (.exportSnapshot settings)).1.result.map (·.1) =
        (t.putOut settings.output (a.snapshot.write settings.layout)).1.mapError .file ∧
      (t.ran (.exportSnapshot settings)).2 =
        (t.putOut settings.output (a.snapshot.write settings.layout)).2 := by
  obtain ⟨events, hrun⟩ := t.exists_run_aggregateFile settings.dump settings.config
  obtain ⟨events', hput⟩ := t.exists_run_putSnapshot settings a.snapshot
  unfold ran Cli.Command.run Cli.exportSnapshot
  -- The runs go on in the identity monad, where a bind is an application.
  have hbind {α β : Type} (x : α × FileTree) (f : α × FileTree → Id (β × FileTree)) :
      (show Id (α × FileTree) from x) >>= f = f x := rfl
  rw [StateT.run_bind, hrun, hbind]
  dsimp only
  rw [h]
  dsimp only
  rw [StateT.run_bind, hput, hbind]
  cases (t.putOut settings.output (a.snapshot.write settings.layout)).1 with
  | error e => exact ⟨rfl, rfl⟩
  | ok text => exact ⟨rfl, rfl⟩

end Export

end FileTree

/-! ## Keys that are written -/

/-- The keys of the written source sets are the texts of their ids, in the order of the map. -/
theorem Snapshot.exists_member_sourceSets (s : Snapshot) :
    ∃ members : List (String × Json), s.toJson.member? "sourceSets" = some (.object members) ∧
      members.map (·.1) = s.sourceSets.keys.map ModuleId.text := by
  refine ⟨s.sourceSets.entries.map fun (id, sets) => (id.text, SourceSet.setToJson sets), rfl, ?_⟩
  rw [SortedMap.keys, List.map_map, List.map_map]
  rfl

/-! ## Listing and exporting -/

/-- A command that succeeds prints the text that it gives. -/
theorem Cli.Outcome.output_of_ok {o : Cli.Outcome} {output notes : String}
    (h : o.result = .ok (output, notes)) : o.output = output := by
  unfold Cli.Outcome.output
  rw [h]

/-- The settings of an export are for the dump at a path, and they leave the strategy of discovery
to its version. -/
structure Cli.ExportSettings.IsFor (settings : Cli.ExportSettings) (dump : Path) : Prop where
  dump : settings.dump = dump
  discovery : settings.legacyDiscovery = false

/-- Exports with the usual discovery have the strategy of the usual settings. -/
theorem Cli.ExportSettings.IsFor.strategy_config {settings : Cli.ExportSettings} {dump : Path}
    (h : settings.IsFor dump) : settings.config.strategy = AggregationConfig.default.strategy := by
  unfold Cli.ExportSettings.config
  rw [h.discovery]
  rfl

/-- **Listing the ids of a dump and exporting it describe the same workspace.**  For any file, the
ids are not listed exactly if there is no aggregation for an export, with the same error for all its
settings but the strategy of discovery.  If they are listed, there is one snapshot that all exports
put out, in the layout of their settings, and the keys of its written source sets, each with a line
end, are what is listed. -/
theorem ids_describe_export (t : FileTree) (dump : Path) :
    (∀ settings : Cli.ExportSettings, settings.IsFor dump → ∀ e,
      ((t.ran (.listIds dump)).1.result = .error e ↔
        (t.aggregated dump settings.config).1 = .error e) ∧
      ((t.aggregated dump settings.config).1 = .error e →
        (t.ran (.exportSnapshot settings)).1.result = .error e)) ∧
    ∀ output notes, (t.ran (.listIds dump)).1.result = .ok (output, notes) →
      ∃ (s : Snapshot) (members : List (String × Json)),
        s.toJson.member? "sourceSets" = some (.object members) ∧
        output = String.join (members.map fun member => member.1 ++ "\n") ∧
        ∀ settings : Cli.ExportSettings, settings.IsFor dump →
          (∃ diagnostics, (t.aggregated dump settings.config).1 = .ok ⟨s, diagnostics⟩) ∧
          (t.ran (.exportSnapshot settings)).1.result.map (·.1) =
            (t.putOut settings.output
              (s.toJson.toText settings.layout ++ "\n")).1.mapError .file ∧
          (t.ran (.exportSnapshot settings)).2 =
            (t.putOut settings.output (s.toJson.toText settings.layout ++ "\n")).2 := by
  -- The ids are listed with the usual settings, which have the strategy of all these exports.
  have hsame (settings : Cli.ExportSettings) (hfor : settings.IsFor dump) :
      SameSnapshot (t.aggregated dump settings.config).1 (t.aggregated dump .default).1 :=
    t.sameSnapshot_aggregated dump hfor.strategy_config
  rw [(t.ran_listIds dump).1]
  cases hvalue : (t.aggregated dump .default).1 with
  | error e =>
    refine ⟨fun settings hfor e' => ⟨?_, fun he' => ?_⟩, nofun⟩
    · rw [(hsame settings hfor).eq_error_iff, hvalue]
      exact ⟨fun h => congrArg _ (Except.error.inj h), fun h => congrArg _ (Except.error.inj h)⟩
    · rw [← hfor.dump] at he'
      exact (t.ran_export_of_error he').1
  | ok a =>
    rw [hvalue] at hsame
    constructor
    · intro settings hfor e
      refine ⟨?_, fun he => ?_⟩
      · rw [(hsame settings hfor).eq_error_iff]
        exact ⟨nofun, nofun⟩
      · exact nomatch ((hsame settings hfor).eq_error_iff e).1 he
    · intro output notes hlisted
      obtain ⟨rfl, -⟩ := Prod.mk.inj (Except.ok.inj hlisted)
      obtain ⟨members, hmembers, hkeys⟩ := a.snapshot.exists_member_sourceSets
      refine ⟨a.snapshot, members, hmembers, ?_, fun settings hfor => ?_⟩
      · rw [t.moduleIds_of_aggregated hvalue, ← hkeys, Cli.lines, List.map_map]
        rfl
      · obtain ⟨diagnostics, hdiagnostics⟩ := (hsame settings hfor).exists_eq_ok
        refine ⟨⟨diagnostics, hdiagnostics⟩, ?_⟩
        rw [← hfor.dump] at hdiagnostics
        exact t.ran_export_of_ok (a := ⟨a.snapshot, diagnostics⟩) hdiagnostics

/-! ### A dump with three modules -/

namespace ThreeModules

/-- A project of the dump. -/
def project (name path : String) : Dump.Project := ⟨name, path, none, .empty, none, .none⟩

/-- A dump of one build, whose projects are not in the order of their ids. -/
def dump : Dump where
  gradleVersion := "8.5"
  rootBuild := none
  builds :=
    [⟨"app", none, none,
      [project "web" ":web", project "app" ":", project "api" ":libs:api"], [], []⟩]
  editableBuilds := []

/-- The text of the dump. -/
def text : String := dump.toJson.toText .compact

/-- A tree with a file of this text. -/
def tree : FileTree := FileTree.empty.put ["dump.json", "work"] (.file text.toUTF8)

/-- The path of the file. -/
def path : Path := ⟨"dump.json"⟩

/-- The settings of an export that prints the snapshot on a single line. -/
def settings : Cli.ExportSettings := ⟨path, none, true, true, false, true⟩

/-- The file can be read. -/
theorem read_tree : tree.read path = .ok text.toUTF8 := rfl

/-- The file holds the dump. -/
theorem isHeldBy_text : dump.IsHeldBy text.toUTF8 := by
  have hnone : dump.propertyNodes = [] := rfl
  have hintegral : ∀ q ∈ dump.propertyNodes, q.isDouble = false := by
    rw [hnone]
    exact nofun
  exact ⟨text, rfl, Dump.fromText_toText hintegral (by decide) .compact⟩

/-- The dump after its check. -/
def checked : Dump.Checked := ⟨dump, "app", ⟨8, 5, 0⟩, rfl, by decide, rfl⟩

/-- What the aggregation of the dump gives. -/
theorem aggregated_tree : ∃ a, (tree.aggregated path .default).1 = .ok a ∧
    a.snapshot.moduleIds.toList.map ModuleId.text = ["app", "libs.api", "web"] := by
  rw [FileTree.aggregated_of_read read_tree,
    aggregateContent_of_isHeldBy path _ checked isHeldBy_text, Host.aggregate_value]
  exact ⟨_, rfl, by decide +kernel⟩

end ThreeModules

/-- The ids of that dump are listed, and its snapshot is printed. -/
theorem ids_of_threeModules :
    ThreeModules.settings.IsFor ThreeModules.path ∧
      (ThreeModules.tree.ran (.listIds ThreeModules.path)).1.output = "app\nlibs.api\nweb\n" ∧
      ∃ s : Snapshot,
        (ThreeModules.tree.ran (.exportSnapshot ThreeModules.settings)).1.result.map (·.1) =
          .ok (s.toJson.toText .compact ++ "\n") := by
  have hfor : ThreeModules.settings.IsFor ThreeModules.path := ⟨rfl, rfl⟩
  obtain ⟨a, ha, hids⟩ := ThreeModules.aggregated_tree
  have hlisted : (ThreeModules.tree.ran (.listIds ThreeModules.path)).1.result =
      .ok ("app\nlibs.api\nweb\n", "") := by
    rw [(ThreeModules.tree.ran_listIds ThreeModules.path).1, ha]
    show Except.ok (Cli.lines (a.snapshot.moduleIds.toList.map ModuleId.text), "") = _
    rw [hids]
    rfl
  obtain ⟨s, members, -, -, hexport⟩ :=
    (ids_describe_export ThreeModules.tree ThreeModules.path).2 _ _ hlisted
  have hprinted := (hexport ThreeModules.settings hfor).2.1
  have houtput : ThreeModules.settings.output = none := rfl
  have hlayout : ThreeModules.settings.layout = .compact := rfl
  rw [houtput, hlayout] at hprinted
  exact ⟨hfor, Cli.Outcome.output_of_ok hlisted, s, hprinted⟩

end CompositeBuild
