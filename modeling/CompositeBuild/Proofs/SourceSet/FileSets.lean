/-
# The files of a source set

A path may be listed in several spellings.  The sets of a source set hold each path that its
definition lists just once: the directories and classpaths in the spelling that is listed last, and
the files that it produces in the spelling that is listed first, where those of its packaging task
come before its compiled output (`holdsFilesOf_ofDefinition`).  The layout of a project consists of
such source sets only, and has one for each definition (`extract_holds_files`).
-/
import CompositeBuild.Proofs.Collection.Representatives
import CompositeBuild.Proofs.Collection.SortedMap
import CompositeBuild.Proofs.SourceSet.Entries

namespace CompositeBuild

open Std

/-! ## Components -/

/-- The order of components tells them apart. -/
instance : LawfulEqOrd PathComponent where
  eq_of_compare {a b} h := by
    have hlex : (compare a.rank b.rank).then (compare a.nameText b.nameText) = .eq := h
    obtain ⟨hrank, htext⟩ := Ordering.then_eq_eq.1 hlex
    have hrank : a.rank = b.rank := LawfulEqOrd.eq_of_compare hrank
    have htext : a.nameText = b.nameText := LawfulEqOrd.eq_of_compare htext
    cases a <;> cases b <;> simp_all [PathComponent.rank, PathComponent.nameText]

theorem Path.compare_eq (a b : Path) : compare a b = compare a.components b.components := rfl

namespace SourceSet

/-! ## What a definition lists -/

/-- The files are what the packaging task of a definition adds to those that its source set
produces: the outputs of the task, if there is one that makes archives, and otherwise none. -/
def IsPackaged (p : Dump.Project) (d : Dump.SourceSetDefinition) (files : List Path) : Prop :=
  (∃ task, (sourceSetTaskName d.name "jar", task) ∈ p.tasks.entries ∧ task.archive = true ∧
    files = task.outputs) ∨
  (∀ task, (sourceSetTaskName d.name "jar", task) ∈ p.tasks.entries → task.archive = false) ∧
    files = []

/-- The source set holds the files that a definition lists, each in one spelling, and its
patterns. -/
structure HoldsFilesOf (p : Dump.Project) (d : Dump.SourceSetDefinition) (s : SourceSet) :
    Prop where
  sources : KeepsOne Path.components List.getLast? d.sourceDirs s.sources.toList
  resources : KeepsOne Path.components List.getLast? d.resourceDirs s.resources.toList
  compileClasspath :
    KeepsOne Path.components List.getLast? d.compileClasspath.paths s.compileClasspath.toList
  runtimeClasspath :
    KeepsOne Path.components List.getLast? d.runtimeClasspath.paths s.runtimeClasspath.toList
  excludes_increasing : (s.excludes.toList.map Text.bytes).Pairwise (· < ·)
  mem_excludes_iff : ∀ x, x ∈ s.excludes.toList ↔ x ∈ d.sourceExcludes ∨ x ∈ d.resourceExcludes
  artifacts : ∃ packaged, IsPackaged p d packaged ∧
    KeepsOne Path.components List.head? (packaged ++ d.outputFiles) s.artifacts.toList

/-! ## The sets of a definition -/

/-- A set of texts lists them in the order of their bytes. -/
theorem bytes_increasing (s : SortedSet String) :
    (s.toList.map Text.bytes).Pairwise (· < ·) :=
  List.pairwise_map.2 <| s.increasing.imp fun h =>
    Text.bytes_lt_bytes_iff.2 (compareOfLessAndEq_eq_lt.1 h)

/-- The archives of the packaging task are what it adds. -/
theorem isPackaged_archivesOf (p : Dump.Project) (d : Dump.SourceSetDefinition) :
    IsPackaged p d (archivesOf p d.jarTaskName) := by
  unfold IsPackaged archivesOf
  show (∃ task, (d.jarTaskName, task) ∈ _ ∧ _) ∨ (∀ task, (d.jarTaskName, task) ∈ _ → _) ∧ _
  cases htask : p.tasks.get? d.jarTaskName with
  | none =>
    refine .inr ⟨fun task hmem => ?_, rfl⟩
    rw [InsertionMap.get?_eq_some_iff.2 hmem] at htask
    exact nomatch htask
  | some task =>
    have hmem := InsertionMap.get?_eq_some_iff.1 htask
    by_cases harchive : task.archive = true
    · exact .inl ⟨task, hmem, harchive, if_pos harchive⟩
    · refine .inr ⟨fun task' hmem' => ?_, if_neg harchive⟩
      obtain rfl : task = task' :=
        Option.some.inj (htask.symm.trans (InsertionMap.get?_eq_some_iff.2 hmem'))
      exact eq_false_of_ne_true harchive

/-- What a source set produces is the set of the packaged files and the compiled output. -/
theorem producedArtifacts_eq (p : Dump.Project) (d : Dump.SourceSetDefinition) :
    producedArtifacts p d = .ofListFirst (archivesOf p d.jarTaskName ++ d.outputFiles) :=
  List.foldl_append.symm

/-- The source set of a definition holds its files. -/
theorem holdsFilesOf_ofDefinition (p : Dump.Project) (d : Dump.SourceSetDefinition) :
    HoldsFilesOf p d (ofDefinition p d).value := by
  rw [value_ofDefinition]
  have hlast (files : List Path) :
      KeepsOne Path.components List.getLast? files (SortedSet.ofListLast files).toList :=
    SortedSet.keepsOne_ofListLast Path.compare_eq files
  constructor
  case sources => exact hlast _
  case resources => exact hlast _
  case compileClasspath => exact hlast _
  case runtimeClasspath => exact hlast _
  case excludes_increasing => exact bytes_increasing _
  case mem_excludes_iff =>
    intro x
    rw [SortedSet.mem_insertAll, SortedSet.mem_ofListFirst, or_comm]
  case artifacts =>
    refine ⟨_, isPackaged_archivesOf p d, ?_⟩
    rw [producedArtifacts_eq]
    exact SortedSet.keepsOne_ofListFirst Path.compare_eq _

/-- **The sets of files of a source set lose nothing and hold nothing twice.**  The source set of a
definition holds of each path that the definition lists, or its packaging task makes, the spelling
that counts, in the order of their components, and the patterns that it excludes in the order of
their bytes. The layout of a project consists of such source sets, and has one that the order does
not tell apart from that of each definition. -/
theorem extract_holds_files (p : Dump.Project) :
    (∀ d, HoldsFilesOf p d (ofDefinition p d).value) ∧
      ∀ definitions, p.sourceSets = some definitions →
        ∃ sets, (extract p).value = some sets ∧
          (∀ s ∈ sets.toList, ∃ d ∈ definitions, s.name = d.name ∧ HoldsFilesOf p d s) ∧
          ∀ d ∈ definitions, ∃ s ∈ sets.toList, compare s (ofDefinition p d).value = .eq := by
  refine ⟨holdsFilesOf_ofDefinition p, fun definitions hsets => ⟨_, value_extract hsets, ?_, ?_⟩⟩
  · intro s hs
    have hlisted := List.mem_of_getLast? (SortedSet.mem_ofListLast_iff.1 hs)
    obtain ⟨d, hd, rfl⟩ := List.mem_map.1 (List.mem_filter.1 hlisted).1
    exact ⟨d, hd, by rw [value_ofDefinition], holdsFilesOf_ofDefinition p d⟩
  · exact fun d hd => SortedSet.exists_compare_eq_of_mem_ofListLast (List.mem_map_of_mem hd)

/-- Directories and archives that are listed in several spellings. -/
def respelledMain : Dump.SourceSetDefinition :=
  { definitionOf "main" (.files []) with
    sourceDirs := [⟨"src/main"⟩, ⟨"gen"⟩, ⟨"src//main/"⟩]
    outputFiles := [⟨"libs/./app.jar"⟩, ⟨"classes"⟩] }

/-- A project whose packaging task of `main` makes one of these archives. -/
def respelledProject : Dump.Project :=
  { projectOf [respelledMain] with
    tasks := .ofList [("jar", ⟨true, [], Property.namesDistinct_empty, [⟨"libs/app.jar"⟩]⟩)] }

/-- Of the spellings of a source directory the last counts, and of those of an archive the first. -/
theorem files_of_respelledProject :
    respelledProject.sourceSets = some [respelledMain] ∧
      ∃ sets, (extract respelledProject).value = some sets ∧
        (∀ s ∈ sets.toList, ∃ d ∈ [respelledMain], s.name = d.name ∧
          HoldsFilesOf respelledProject d s) ∧
        (sets.toList.map fun s =>
          (s.sources.toList.map Path.text, s.artifacts.toList.map Path.text)) =
          [(["gen", "src//main/"], ["classes", "libs/app.jar"])] := by
  have hsets : respelledProject.sourceSets = some [respelledMain] := rfl
  obtain ⟨sets, hvalue, hholds, -⟩ := (extract_holds_files respelledProject).2 _ hsets
  have htexts : ((extract respelledProject).value.map fun sets => sets.toList.map fun s =>
      (s.sources.toList.map Path.text, s.artifacts.toList.map Path.text)) =
        some [(["gen", "src//main/"], ["classes", "libs/app.jar"])] := by rfl
  rw [hvalue] at htexts
  exact ⟨hsets, sets, hvalue, hholds, Option.some.inj htexts⟩

end SourceSet

end CompositeBuild
