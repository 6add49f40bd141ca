/-
# One source set for each definition

The source set of a definition is made of this definition and of the archives of its packaging task
only (`value_ofDefinition`), and what is told of it is one warning for each classpath that could not
be resolved (`events_ofDefinition`).  Definitions with different names give source sets that the
order tells apart, so each of them has just one entry in the layout of its project (`isEntry_iff`).
A classpath that could not be resolved leaves everything else in its entry, and all other entries,
as they are (`entries_degrade_alone`).
-/
import CompositeBuild.Proofs.Collection.Relisting
import CompositeBuild.Proofs.Text.ByteOrder
import CompositeBuild.SourceSet.Extraction

namespace CompositeBuild

open Std

namespace Dump

/-! ## File collections of a definition -/

namespace FileCollection

/-- The paths of a file collection; there are none if it could not be resolved. -/
def paths : FileCollection → List Path
  | files paths => paths
  | unresolved _ => []

/-- The file collection could not be resolved. -/
def IsUnresolved (c : FileCollection) : Prop := ∃ reason, c = unresolved reason

instance : DecidablePred IsUnresolved
  | files _ => .isFalse fun ⟨_, h⟩ => nomatch h
  | unresolved reason => .isTrue ⟨reason, rfl⟩

theorem IsUnresolved.paths_eq {c : FileCollection} (h : c.IsUnresolved) : c.paths = [] := by
  obtain ⟨reason, rfl⟩ := h
  rfl

end FileCollection

namespace SourceSetDefinition

/-- The warning for a classpath that could not be resolved. -/
def warning? (d : SourceSetDefinition) (side : Classpath) : Option Event :=
  match d.collection side with
  | .files _ => none
  | .unresolved reason => some (.classpathUnresolved ⟨d.name, side, reason⟩)

theorem warning?_eq_some_iff {d : SourceSetDefinition} {side : Classpath} {e : Event} :
    d.warning? side = some e ↔
      ∃ reason, d.collection side = .unresolved reason ∧
        e = .classpathUnresolved ⟨d.name, side, reason⟩ := by
  unfold warning?
  cases d.collection side <;> simp [eq_comm]

/-- The second definition is the first with other classpaths. -/
def DifferInClasspaths (d d' : SourceSetDefinition) : Prop :=
  d' = { d with
    compileClasspath := d'.compileClasspath
    runtimeClasspath := d'.runtimeClasspath }

end SourceSetDefinition

end Dump

namespace SourceSet

variable {p p' : Dump.Project} {definitions : List Dump.SourceSetDefinition}
  {d d' : Dump.SourceSetDefinition}

/-! ## The source set of a definition -/

/-- What is resolved of a classpath are its paths, unless it could not be resolved. -/
theorem value_resolveClasspath (d : Dump.SourceSetDefinition) (side : Classpath) :
    (resolveClasspath d side).value =
      if (d.collection side).IsUnresolved then none
      else some (.ofListLast (d.collection side).paths) := by
  unfold resolveClasspath Dump.SourceSetDefinition.classpath
  cases hside : d.collection side with
  | files paths => rfl
  | unresolved reason => rfl

theorem events_resolveClasspath (d : Dump.SourceSetDefinition) (side : Classpath) :
    (resolveClasspath d side).events = (d.warning? side).toList := by
  unfold resolveClasspath Dump.SourceSetDefinition.classpath Dump.SourceSetDefinition.warning?
  cases d.collection side <;> rfl

/-- The source set of a definition, field by field. -/
theorem value_ofDefinition (p : Dump.Project) (d : Dump.SourceSetDefinition) :
    (ofDefinition p d).value =
      { name := d.name
        sources := .ofListLast d.sourceDirs
        resources := .ofListLast d.resourceDirs
        excludes := (SortedSet.ofListFirst d.sourceExcludes).insertAll d.resourceExcludes
        compileClasspath := .ofListLast d.compileClasspath.paths
        runtimeClasspath := .ofListLast d.runtimeClasspath.paths
        artifacts := producedArtifacts p d
        hasUnresolvedDependencies :=
          decide (d.runtimeClasspath.IsUnresolved ∨ d.compileClasspath.IsUnresolved) } := by
  have hruntime := value_resolveClasspath d .runtime
  have hcompile := value_resolveClasspath d .compile
  unfold ofDefinition
  simp only [Logged.value_bind, Logged.value_pure, hruntime, hcompile,
    Dump.SourceSetDefinition.collection]
  by_cases hr : d.runtimeClasspath.IsUnresolved <;>
    by_cases hc : d.compileClasspath.IsUnresolved <;>
      simp [hr, hc, Dump.FileCollection.IsUnresolved.paths_eq, SortedSet.ofListLast]

/-- The warnings for a definition. -/
theorem events_ofDefinition (p : Dump.Project) (d : Dump.SourceSetDefinition) :
    (ofDefinition p d).events = [.runtime, .compile].filterMap d.warning? := by
  unfold ofDefinition
  rw [Logged.events_bind, Logged.events_bind, events_resolveClasspath, events_resolveClasspath,
    Logged.events_pure, List.append_nil, List.filterMap_eq_flatMap_toList]
  simp

theorem producedArtifacts_congr (h : p'.tasks.get? d.jarTaskName = p.tasks.get? d.jarTaskName) :
    producedArtifacts p' d = producedArtifacts p d := by
  unfold producedArtifacts archivesOf
  rw [h]

/-! ## Entries -/

/-- The project has definitions of source sets, with different names. -/
def HasDefinitions (p : Dump.Project) (definitions : List Dump.SourceSetDefinition) : Prop :=
  p.sourceSets = some definitions ∧ (definitions.map Dump.SourceSetDefinition.name).Nodup

/-- The source set is in the layout of the project, under the name. -/
def IsEntry (p : Dump.Project) (name : String) (s : SourceSet) : Prop :=
  ∃ sets, (extract p).value = some sets ∧ s ∈ sets.toList ∧ s.name = name

theorem name_eq_of_compare_eq {s₁ s₂ : SourceSet} (h : compare s₁ s₂ = .eq) :
    s₁.name = s₂.name := by
  have hlex : (compare s₁.name s₂.name).then _ = .eq := h
  exact LawfulEqOrd.eq_of_compare (Ordering.then_eq_eq.1 hlex).1

/-- A source set comes before another of a different name by its name. -/
theorem name_lt_of_compare_lt {s₁ s₂ : SourceSet} (h : compare s₁ s₂ = .lt)
    (hne : s₁.name ≠ s₂.name) : s₁.name < s₂.name := by
  have hlex : (compare s₁.name s₂.name).then _ = .lt := h
  rcases Ordering.then_eq_lt.1 hlex with hlt | ⟨heq, -⟩
  · exact compareOfLessAndEq_eq_lt.1 hlt
  · exact absurd (LawfulEqOrd.eq_of_compare heq) hne

theorem value_extract (h : p.sourceSets = some definitions) :
    (extract p).value =
      some (.ofListLast (definitions.map fun d => (ofDefinition p d).value)) := by
  unfold extract
  rw [h]
  simp only [Logged.value_bind, Logged.value_pure, Logged.value_forEach]

theorem pairwise_compare_ne (p : Dump.Project)
    (h : (definitions.map Dump.SourceSetDefinition.name).Nodup) :
    (definitions.map fun d => (ofDefinition p d).value).Pairwise fun a b => compare a b ≠ .eq := by
  rw [List.pairwise_map]
  exact (List.pairwise_map.1 h).imp fun hne heq => hne (name_eq_of_compare_eq heq)

theorem perm_toList (p : Dump.Project) (h : (definitions.map Dump.SourceSetDefinition.name).Nodup) :
    (SortedSet.ofListLast (definitions.map fun d => (ofDefinition p d).value)).toList.Perm
      (definitions.map fun d => (ofDefinition p d).value) :=
  SortedSet.perm_ofListLast (pairwise_compare_ne p h)

theorem perm_map_name (p : Dump.Project)
    (h : (definitions.map Dump.SourceSetDefinition.name).Nodup) :
    ((SortedSet.ofListLast
        (definitions.map fun d => (ofDefinition p d).value)).toList.map name).Perm
      (definitions.map Dump.SourceSetDefinition.name) := by
  have hmap := (perm_toList p h).map name
  rwa [List.map_map] at hmap

/-- The entry of a definition is its source set. -/
theorem isEntry_iff (h : HasDefinitions p definitions) (hd : d ∈ definitions) {s : SourceSet} :
    IsEntry p d.name s ↔ s = (ofDefinition p d).value := by
  unfold IsEntry
  rw [value_extract h.1]
  constructor
  · rintro ⟨sets, hsets, hs, hname⟩
    obtain rfl := Option.some.inj hsets
    obtain ⟨d', hd', rfl⟩ := List.mem_map.1 ((perm_toList p h.2).mem_iff.1 hs)
    rw [List.inj_on_of_nodup_map h.2 hd' hd hname]
  · rintro rfl
    exact ⟨_, rfl, (perm_toList p h.2).mem_iff.2 (List.mem_map_of_mem hd), rfl⟩

/-- The names in the layout are in the order of their bytes. -/
theorem bytes_name_increasing (p : Dump.Project)
    (h : (definitions.map Dump.SourceSetDefinition.name).Nodup) :
    ((SortedSet.ofListLast (definitions.map fun d => (ofDefinition p d).value)).toList.map fun s =>
      Text.bytes s.name).Pairwise (· < ·) := by
  have hnames := List.pairwise_map.1 ((perm_map_name p h).nodup_iff.2 h)
  rw [List.pairwise_map]
  exact (SortedSet.increasing _).imp₂ (fun _ _ hlt hne =>
    Text.bytes_lt_bytes_iff.2 (name_lt_of_compare_lt hlt hne)) hnames

/-- What is told of a layout are the warnings for its definitions, one after the other. -/
theorem events_extract (h : p.sourceSets = some definitions) :
    (extract p).events =
      definitions.flatMap fun d => [.runtime, .compile].filterMap d.warning? := by
  unfold extract
  rw [h]
  simp only [Logged.events_bind, Logged.events_pure, Logged.events_forEach, List.append_nil,
    events_ofDefinition]

/-- The message for a classpath that could not be resolved, in full. -/
theorem message_classpathUnresolved (name : String) (side : Classpath) (reason : String) :
    (Event.classpathUnresolved ⟨name, side, reason⟩).message =
      s!"Unable to resolve a file collection for source set {name} - " ++
        s!"could not resolve {side.describe} of source set {name}: {reason}" := by
  unfold Event.message ResolutionError.message
  simp only [toString, String.append_assoc]

/-- What is told of a layout are warnings that name a source set and a classpath with the reason. -/
theorem exists_unresolved_of_mem_events (h : p.sourceSets = some definitions) {e : Event}
    (he : e ∈ (extract p).events) :
    ∃ d ∈ definitions, ∃ side reason, d.collection side = .unresolved reason ∧
      e.level = .warn ∧
      e.message = s!"Unable to resolve a file collection for source set {d.name} - " ++
        s!"could not resolve {side.describe} of source set {d.name}: {reason}" := by
  rw [events_extract h] at he
  obtain ⟨d, hd, he⟩ := List.mem_flatMap.1 he
  obtain ⟨side, -, hwarning⟩ := List.mem_filterMap.1 he
  obtain ⟨reason, hside, rfl⟩ := Dump.SourceSetDefinition.warning?_eq_some_iff.1 hwarning
  exact ⟨d, hd, side, reason, hside, rfl, message_classpathUnresolved d.name side reason⟩

/-- Without definitions there is no layout, or an empty one, and nothing is told. -/
theorem extract_of_no_definitions (q : Dump.Project) :
    (q.sourceSets = none → extract q = pure none) ∧
      (q.sourceSets = some [] → extract q = pure (some .empty)) := by
  constructor
  · intro hq
    unfold extract
    rw [hq]
  · intro hq
    unfold extract
    rw [hq]
    rfl

/-! ## Classpaths that could not be resolved -/

/-- The source sets of two definitions have the same fields, apart from what comes of the classpaths
in which these differ. -/
structure AlikeButClasspaths (d d' : Dump.SourceSetDefinition) (s s' : SourceSet) : Prop where
  others : s' = { s with
    compileClasspath := s'.compileClasspath
    runtimeClasspath := s'.runtimeClasspath
    hasUnresolvedDependencies := s'.hasUnresolvedDependencies }
  compile : d'.compileClasspath = d.compileClasspath → s'.compileClasspath = s.compileClasspath
  runtime : d'.runtimeClasspath = d.runtimeClasspath → s'.runtimeClasspath = s.runtimeClasspath

/-- Definitions that differ in their classpaths give source sets that do, if their packaging task is
the same. -/
theorem alikeButClasspaths_ofDefinition (hd : d.DifferInClasspaths d')
    (htask : p'.tasks.get? d.jarTaskName = p.tasks.get? d.jarTaskName) :
    AlikeButClasspaths d d' (ofDefinition p d).value (ofDefinition p' d').value := by
  have hartifacts : producedArtifacts p' d' = producedArtifacts p d := by
    rw [hd]
    exact producedArtifacts_congr htask
  rw [value_ofDefinition, value_ofDefinition, hartifacts]
  constructor
  case others => rw [hd]
  case compile => exact fun hcompile => by rw [hcompile]
  case runtime => exact fun hruntime => by rw [hruntime]

/-- The entries of definitions that differ in their classpaths are alike, whatever else there is in
their projects, if their packaging task is the same. -/
theorem alikeButClasspaths_of_isEntry {definitions' : List Dump.SourceSetDefinition}
    (h : HasDefinitions p definitions) (h' : HasDefinitions p' definitions') (hd : d ∈ definitions)
    (hd' : d' ∈ definitions') (hdiffer : d.DifferInClasspaths d')
    (htask : p'.tasks.get? d.jarTaskName = p.tasks.get? d.jarTaskName) {s s' : SourceSet}
    (hs : IsEntry p d.name s) (hs' : IsEntry p' d'.name s') :
    AlikeButClasspaths d d' s s' ∧ (d' = d → s' = s) := by
  rw [(isEntry_iff h hd).1 hs, (isEntry_iff h' hd').1 hs']
  refine ⟨alikeButClasspaths_ofDefinition hdiffer htask, ?_⟩
  rintro rfl
  rw [value_ofDefinition, value_ofDefinition, producedArtifacts_congr htask]

/-- **Each definition has one entry, which degrades alone.**  If the definitions of a project have
different names, its layout has one source set for each of them, in the order of the bytes of their
names.  A source set is marked exactly if one of its classpaths could not be resolved, which is
empty then.  In two projects the entries of a definition are the same if its packaging task is, and
definitions that differ in their classpaths have entries that differ in what comes of these.  What
is told are the warnings for these classpaths, by definitions and with the runtime classpath first.
Without definitions there is no layout, or an empty one. -/
theorem entries_degrade_alone {definitions' : List Dump.SourceSetDefinition}
    (h : HasDefinitions p definitions) (h' : HasDefinitions p' definitions') :
    (∃ sets, (extract p).value = some sets ∧ sets.size = definitions.length ∧
      (sets.toList.map fun s => Text.bytes s.name).Pairwise (· < ·) ∧
      (sets.toList.map name).Perm (definitions.map Dump.SourceSetDefinition.name)) ∧
    (∀ d ∈ definitions, ∃ s, IsEntry p d.name s ∧
      (s.hasUnresolvedDependencies = true ↔
        d.compileClasspath.IsUnresolved ∨ d.runtimeClasspath.IsUnresolved) ∧
      (d.compileClasspath.IsUnresolved → s.compileClasspath = .empty) ∧
      (d.runtimeClasspath.IsUnresolved → s.runtimeClasspath = .empty)) ∧
    (∀ d ∈ definitions, ∀ d' ∈ definitions', d.DifferInClasspaths d' →
      p'.tasks.get? d.jarTaskName = p.tasks.get? d.jarTaskName →
        ∀ s s', IsEntry p d.name s → IsEntry p' d'.name s' →
          AlikeButClasspaths d d' s s' ∧ (d' = d → s' = s)) ∧
    (extract p).events = (definitions.flatMap fun d => [.runtime, .compile].filterMap d.warning?) ∧
    (∀ e ∈ (extract p).events, ∃ d ∈ definitions, ∃ side reason,
      d.collection side = .unresolved reason ∧
        e.level = .warn ∧
        e.message = s!"Unable to resolve a file collection for source set {d.name} - " ++
          s!"could not resolve {side.describe} of source set {d.name}: {reason}") ∧
    ∀ q : Dump.Project, (q.sourceSets = none → extract q = pure none) ∧
      (q.sourceSets = some [] → extract q = pure (some .empty)) := by
  refine ⟨⟨_, value_extract h.1, ?size, bytes_name_increasing p h.2, perm_map_name p h.2⟩,
    fun d hd => ⟨_, (isEntry_iff h hd).2 rfl, ?marked, ?compile, ?runtime⟩,
    fun d hd d' hd' hdiffer htask s s' => alikeButClasspaths_of_isEntry h h' hd hd' hdiffer htask,
    events_extract h.1, fun e => exists_unresolved_of_mem_events h.1, extract_of_no_definitions⟩
  case size =>
    have hlength := (perm_toList p h.2).length_eq
    rwa [List.length_map] at hlength
  case marked =>
    rw [value_ofDefinition, decide_eq_true_eq, or_comm]
  case compile =>
    intro hunresolved
    rw [value_ofDefinition, hunresolved.paths_eq]
    rfl
  case runtime =>
    intro hunresolved
    rw [value_ofDefinition, hunresolved.paths_eq]
    rfl

/-- A definition whose compile classpath is given. -/
def definitionOf (name : String) (compileClasspath : Dump.FileCollection) :
    Dump.SourceSetDefinition where
  name
  sourceDirs := [⟨"src"⟩]
  resourceDirs := []
  sourceExcludes := []
  resourceExcludes := []
  compileClasspath
  runtimeClasspath := .files [⟨"lib.jar"⟩]
  outputFiles := [⟨"classes"⟩]

/-- A project with the definitions and no tasks. -/
def projectOf (definitions : List Dump.SourceSetDefinition) : Dump.Project :=
  ⟨"app", ":", none, .empty, some definitions, .none⟩

/-- The compile classpath of `main` could not be resolved, which leaves the rest of its entry as it
is in a project where it could, and where there is a `test` in place of a `tools`. -/
theorem entry_of_main_degrades_alone :
    let main := definitionOf "main" (.unresolved "offline")
    let main' := definitionOf "main" (.files [⟨"api.jar"⟩])
    let p := projectOf [main, definitionOf "tools" (.files [])]
    let p' := projectOf [definitionOf "test" (.files []), main']
    HasDefinitions p [main, definitionOf "tools" (.files [])] ∧
      HasDefinitions p' [definitionOf "test" (.files []), main'] ∧
      ∃ s s', IsEntry p "main" s ∧ IsEntry p' "main" s' ∧ AlikeButClasspaths main main' s s' ∧
        s.hasUnresolvedDependencies = true ∧ s.compileClasspath = .empty := by
  intro main main' p p'
  have h : HasDefinitions p [main, definitionOf "tools" (.files [])] := ⟨rfl, by decide⟩
  have h' : HasDefinitions p' [definitionOf "test" (.files []), main'] := ⟨rfl, by decide⟩
  obtain ⟨-, hentries, halike, -⟩ := entries_degrade_alone h h'
  obtain ⟨-, hentries', -⟩ := entries_degrade_alone h' h
  obtain ⟨s, hs, hmarked, hcompile, -⟩ := hentries main (by simp)
  obtain ⟨s', hs', -⟩ := hentries' main' (by simp)
  have hunresolved : main.compileClasspath.IsUnresolved := ⟨"offline", rfl⟩
  exact ⟨h, h', s, s', hs, hs', (halike main (by simp) main' (by simp) rfl rfl s s' hs hs').1,
    hmarked.2 (.inl hunresolved), hcompile hunresolved⟩

end SourceSet

end CompositeBuild
