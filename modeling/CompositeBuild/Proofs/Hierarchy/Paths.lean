/-
# Projects at one path

A build may list several projects at one path.  The first and the last of them are the same for
every path if projects at one path are (`PathsIdentify.firstAt?_eq`), and each project is the first
at its path exactly in this case (`forall_firstAt?_iff`).
-/
import CompositeBuild.Dump.Containers
import Mathlib.Data.List.Nodup

namespace CompositeBuild.Dump.Build

variable {b : Build} {path : String}

/-- The project at a path, the first if there are several. -/
def firstAt? (b : Build) (path : String) : Option Project := b.projects.find? (·.path = path)

/-- Projects at one path are the same. -/
def PathsIdentify (b : Build) : Prop := ∀ p ∈ b.projects, ∀ q ∈ b.projects, p.path = q.path → p = q

/-- Projects of different paths are told apart by these. -/
theorem PathsIdentify.of_nodup (h : (b.projects.map Project.path).Nodup) : b.PathsIdentify :=
  fun _ hp _ hq => List.inj_on_of_nodup_map h hp hq

theorem mem_of_firstAt? {p : Project} (h : b.firstAt? path = some p) :
    p ∈ b.projects ∧ p.path = path :=
  ⟨List.mem_of_find?_eq_some h, by simpa using List.find?_some h⟩

theorem mem_of_lastAt? {p : Project} (h : b.lastAt? path = some p) :
    p ∈ b.projects ∧ p.path = path :=
  ⟨List.mem_reverse.1 (List.mem_of_find?_eq_some h), by simpa using List.find?_some h⟩

/-- There is a first project at the path of a project. -/
theorem exists_firstAt? {p : Project} (hp : p ∈ b.projects) :
    ∃ first, b.firstAt? p.path = some first :=
  Option.isSome_iff_exists.1 (List.find?_isSome.2 ⟨p, hp, by simp⟩)

/-- There is a first project at a path exactly if there is a last. -/
theorem isSome_firstAt? : (b.firstAt? path).isSome = (b.lastAt? path).isSome := by
  unfold firstAt? lastAt?
  rw [Bool.eq_iff_iff, List.find?_isSome, List.find?_isSome]
  simp only [List.mem_reverse]

/-- Each project is the first at its path exactly if projects at one path are the same. -/
theorem forall_firstAt?_iff : (∀ p ∈ b.projects, b.firstAt? p.path = some p) ↔ b.PathsIdentify := by
  constructor
  · intro h p hp q hq hpath
    have hfirst := h p hp
    rw [hpath, h q hq] at hfirst
    exact (Option.some.inj hfirst).symm
  · intro h p hp
    obtain ⟨first, hfirst⟩ := exists_firstAt? hp
    obtain ⟨hmem, hpath⟩ := mem_of_firstAt? hfirst
    rw [hfirst, h first hmem p hp hpath]

/-- The first and the last project at a path are the same if projects at one path are. -/
theorem PathsIdentify.firstAt?_eq (h : b.PathsIdentify) (path : String) :
    b.firstAt? path = b.lastAt? path := by
  have hsome : (b.firstAt? path).isSome = (b.lastAt? path).isSome := isSome_firstAt?
  cases hlast : b.lastAt? path with
  | none =>
    rw [hlast] at hsome
    simpa using hsome
  | some last =>
    obtain ⟨hlastMem, hlastPath⟩ := mem_of_lastAt? hlast
    obtain ⟨first, hfirst⟩ := exists_firstAt? hlastMem
    rw [hlastPath] at hfirst
    obtain ⟨hfirstMem, hfirstPath⟩ := mem_of_firstAt? hfirst
    rw [hfirst, h first hfirstMem last hlastMem (hfirstPath.trans hlastPath.symm)]

end CompositeBuild.Dump.Build
