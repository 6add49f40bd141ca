/-
# Merging the facets of projects

The facets of projects are merged one project after the other and, within a project, one module
after the other.  What the merge ends with does not depend on these steps: the maps are those of all
entries in order, and the diagnostics are, project by project, its failures and then the collisions
of its modules (`addProjects_value`).
-/
import CompositeBuild.Aggregation
import CompositeBuild.Proofs.Collection.SortedMap

namespace CompositeBuild

open Std

instance : LawfulEqOrd ModuleId where
  eq_of_compare {a b} h := by
    cases a
    cases b
    exact congrArg ModuleId.mk (LawfulEqOrd.eq_of_compare h)

namespace Merged

/-! ## Collisions -/

/-- The collisions that are reported for the ids of modules, in order, if the modules before them
had the ids in `seen`: one for each id that came before. -/
def collisions (detect : Bool) (seen : List ModuleId) : List ModuleId → List Diagnostic
  | [] => []
  | id :: rest =>
    (if detect && seen.contains id then [⟨.collision id, collisionMessage⟩] else []) ++
      collisions detect (id :: seen) rest

/-- What holds of every collision holds of those that are reported. -/
theorem forall_mem_collisions {P : Diagnostic → Prop}
    (hP : ∀ id, P ⟨.collision id, collisionMessage⟩)
    (detect : Bool) (seen ids : List ModuleId) : ∀ d ∈ collisions detect seen ids, P d := by
  induction ids generalizing seen with
  | nil => exact List.forall_mem_nil _
  | cons id rest ih =>
    unfold collisions
    refine List.forall_mem_append.2 ⟨?_, ih _⟩
    split
    · exact List.forall_mem_singleton.2 (hP id)
    · exact List.forall_mem_nil _

theorem filter_collisions {p : Diagnostic → Bool}
    (hp : ∀ id, p ⟨.collision id, collisionMessage⟩ = false) (detect : Bool)
    (seen ids : List ModuleId) : (collisions detect seen ids).filter p = [] := by
  rw [List.filter_eq_nil_iff]
  exact forall_mem_collisions (fun id => by simp [hp]) detect seen ids

/-! ## One project -/

/-- The ids under which source sets have been put together so far are those in `ids`. -/
def Holds (merged : Merged) (ids : List ModuleId) : Prop :=
  ∀ id, id ∈ merged.sourceSets.keys ↔ id ∈ ids

theorem Holds.contains_eq {merged : Merged} {seen : List ModuleId} (hseen : merged.Holds seen)
    (id : ModuleId) : merged.sourceSets.contains id = seen.contains id := by
  rw [Bool.eq_iff_iff, ← SortedMap.mem_keys_iff, List.contains_iff_mem]
  exact hseen id

/-- Adding the source sets of a module sets its entry and reports whether its id came before. -/
theorem addSourceSets_value (detect : Bool) {merged : Merged} {seen : List ModuleId}
    (hseen : merged.Holds seen) (entry : ModuleId × SortedSet SourceSet) :
    (merged.addSourceSets detect entry).value =
      { merged with
        sourceSets := merged.sourceSets.insert entry.1 entry.2
        diagnostics := merged.diagnostics ++ collisions detect seen [entry.1] } := by
  unfold addSourceSets
  rw [hseen.contains_eq]
  by_cases h : (detect && seen.contains entry.1) = true
  · simp only [h, if_true, Logged.value_bind, Logged.value_pure, collisions, List.append_nil]
  · simp only [h, if_false, Logged.value_pure, collisions, List.append_nil, Bool.false_eq_true]

/-- After the source sets of a module have been added, its id is among those with an entry. -/
theorem holds_addSourceSets (detect : Bool) {merged : Merged} {seen : List ModuleId}
    (hseen : merged.Holds seen) (entry : ModuleId × SortedSet SourceSet) :
    (merged.addSourceSets detect entry).value.Holds (entry.1 :: seen) := by
  intro id
  rw [addSourceSets_value detect hseen entry, SortedMap.mem_keys_insert, List.mem_cons, hseen id]

/-- Adding the source sets of modules sets their entries in order and reports every id that came
before. -/
theorem addAllSourceSets_value (detect : Bool) {merged : Merged} {seen : List ModuleId}
    (hseen : merged.Holds seen) (entries : List (ModuleId × SortedSet SourceSet)) :
    (addAllSourceSets detect merged entries).value =
      { merged with
        sourceSets := merged.sourceSets.insertAll entries
        diagnostics := merged.diagnostics ++ collisions detect seen (entries.map (·.1)) } := by
  -- The ids that came before grow by one with each entry, so the induction is over any of them.
  induction entries generalizing merged seen with
  | nil => simp [addAllSourceSets, SortedMap.insertAll, collisions]
  | cons entry rest ih =>
    unfold addAllSourceSets
    rw [Logged.value_bind, ih (holds_addSourceSets detect hseen entry),
      addSourceSets_value detect hseen entry]
    simp [SortedMap.insertAll, collisions, List.append_assoc]

/-- Adding the facets of a project sets the entries of its modules in order; its failures come
before the collisions of its modules. -/
theorem addProject_value (detect : Bool) {merged : Merged} {seen : List ModuleId}
    (hseen : merged.Holds seen) (facets : ProjectFacets) :
    (merged.addProject detect facets).value =
      ⟨merged.toolchains.insertAll facets.toolchains,
        merged.sourceSets.insertAll facets.sourceSets,
        merged.diagnostics ++ facets.diagnostics ++
          collisions detect seen (facets.sourceSets.map (·.1))⟩ := by
  have hstart : Holds
      { merged with
        toolchains := merged.toolchains.insertAll facets.toolchains
        diagnostics := merged.diagnostics ++ facets.diagnostics } seen := hseen
  unfold addProject
  rw [addAllSourceSets_value detect hstart]

/-- After the facets of a project have been added, the ids of its modules are among those with an
entry. -/
theorem holds_addProject (detect : Bool) {merged : Merged} {seen : List ModuleId}
    (hseen : merged.Holds seen) (facets : ProjectFacets) :
    (merged.addProject detect facets).value.Holds (facets.sourceSets.map (·.1) ++ seen) := by
  intro id
  rw [addProject_value detect hseen facets, SortedMap.mem_keys_insertAll, List.mem_append, hseen id]

/-! ## All projects -/

/-- The diagnostics of merging the facets of projects, in order, if the modules before them had the
ids in `seen`: for each project its failures and then the collisions of its modules. -/
def report (detect : Bool) (seen : List ModuleId) : List ProjectFacets → List Diagnostic
  | [] => []
  | facets :: rest =>
    facets.diagnostics ++ collisions detect seen (facets.sourceSets.map (·.1)) ++
      report detect (facets.sourceSets.map (·.1) ++ seen) rest

/-- A test that no collision passes leaves the failures of the projects in the report. -/
theorem filter_report {p : Diagnostic → Bool}
    (hp : ∀ id, p ⟨.collision id, collisionMessage⟩ = false) (detect : Bool)
    (seen : List ModuleId) (facets : List ProjectFacets) :
    (report detect seen facets).filter p =
      (facets.flatMap ProjectFacets.diagnostics).filter p := by
  induction facets generalizing seen with
  | nil => rfl
  | cons f rest ih =>
    unfold report
    rw [List.filter_append, List.filter_append, filter_collisions hp, List.append_nil, ih,
      List.flatMap_cons, List.filter_append]

/-- What holds of every collision and of the failures of all projects holds of the report. -/
theorem forall_mem_report {P : Diagnostic → Prop} (hP : ∀ id, P ⟨.collision id, collisionMessage⟩)
    (detect : Bool) (seen : List ModuleId) {facets : List ProjectFacets}
    (hfacets : ∀ f ∈ facets, ∀ d ∈ f.diagnostics, P d) : ∀ d ∈ report detect seen facets, P d := by
  induction facets generalizing seen with
  | nil => exact List.forall_mem_nil _
  | cons f rest ih =>
    obtain ⟨hf, hrest⟩ := List.forall_mem_cons.1 hfacets
    unfold report
    refine List.forall_mem_append.2 ⟨List.forall_mem_append.2 ⟨hf, ?_⟩, ih _ hrest⟩
    exact forall_mem_collisions hP detect seen _

/-- **The merge in closed form.** Merging the facets of projects one after the other sets the
entries of all their modules in order and adds the report on them to the diagnostics. -/
theorem addProjects_value (detect : Bool) {merged : Merged} {seen : List ModuleId}
    (hseen : merged.Holds seen) (facets : List ProjectFacets) :
    (addProjects detect merged facets).value =
      ⟨merged.toolchains.insertAll (facets.flatMap ProjectFacets.toolchains),
        merged.sourceSets.insertAll (facets.flatMap ProjectFacets.sourceSets),
        merged.diagnostics ++ report detect seen facets⟩ := by
  induction facets generalizing merged seen with
  | nil => simp [addProjects, SortedMap.insertAll, report]
  | cons f rest ih =>
    unfold addProjects
    rw [Logged.value_bind, ih (holds_addProject detect hseen f), addProject_value detect hseen f]
    simp only [List.flatMap_cons, SortedMap.insertAll_append, report, List.append_assoc]

end Merged

end CompositeBuild
