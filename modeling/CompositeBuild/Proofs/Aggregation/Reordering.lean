/-
# Visiting handles in another order

If an aggregation visits the same handles in another order, it composes the same projects in another
order.  As long as no two modules have one id, nothing else depends on this order but that of the
diagnostics (`Host.reordered_outcome`).
-/
import CompositeBuild.Proofs.Aggregation.Outcome

namespace CompositeBuild

namespace Merged

variable (detect : Bool) {seen : List ModuleId}

/-- No collisions are reported for new ids that are all different. -/
theorem collisions_of_nodup {ids : List ModuleId} (hids : ids.Nodup)
    (hnew : ∀ id ∈ ids, id ∉ seen) :
    collisions detect seen ids = [] := by
  induction ids generalizing seen with
  | nil => rfl
  | cons id rest ih =>
    obtain ⟨hid, hrest⟩ := List.nodup_cons.1 hids
    obtain ⟨hseen, hnew⟩ := List.forall_mem_cons.1 hnew
    have hcontains : seen.contains id = false := by simpa using hseen
    have hnew' : ∀ id' ∈ rest, id' ∉ id :: seen := by
      intro id' hmem hcons
      rcases List.mem_cons.1 hcons with rfl | hseen
      · exact hid hmem
      · exact hnew id' hmem hseen
    unfold collisions
    rw [hcontains, Bool.and_false, ih hrest hnew']
    rfl

/-- The report on projects whose modules have new ids that are all different lists their
failures. -/
theorem report_of_nodup {facets : List ProjectFacets}
    (hids : (facets.flatMap fun f => f.sourceSets.map (·.1)).Nodup)
    (hnew : ∀ id ∈ facets.flatMap fun f => f.sourceSets.map (·.1), id ∉ seen) :
    report detect seen facets = facets.flatMap ProjectFacets.diagnostics := by
  induction facets generalizing seen with
  | nil => rfl
  | cons f rest ih =>
    rw [List.flatMap_cons] at hids hnew
    obtain ⟨hfirst, hrest, hdisjoint⟩ := List.nodup_append.1 hids
    obtain ⟨hnewFirst, hnewRest⟩ := List.forall_mem_append.1 hnew
    have hnew' : ∀ id ∈ rest.flatMap fun f => f.sourceSets.map (·.1),
        id ∉ f.sourceSets.map (·.1) ++ seen := by
      intro id hmem happend
      rcases List.mem_append.1 happend with hid | hseen
      · exact hdisjoint id hid id hmem rfl
      · exact hnewRest id hmem hseen
    unfold report
    rw [collisions_of_nodup detect hfirst hnewFirst, ih hrest hnew', List.append_nil,
      List.flatMap_cons]

end Merged

namespace Host

variable (host : Host)

/-- The ids of the entries of toolchain settings are some of the ids of the modules, in order. -/
theorem map_fst_toolchainEntries_sublist (modules : List Module) :
    ((host.toolchainEntries modules).map (·.1)).Sublist (modules.map Module.id) := by
  induction modules with
  | nil => exact .slnil
  | cons m rest ih =>
    unfold toolchainEntries
    rw [List.filterMap_cons]
    cases host.toolchainOf m with
    | none => exact .cons m.id ih
    | some settings => exact .cons_cons m.id ih

/-- The diagnostics of an outcome in which no two modules have one id: the failures of the root
project, of the visited handles, and of the facets. -/
theorem diagnostics_outcome_of_nodup {config : AggregationConfig} {root : Project}
    (hids : ((host.outcome config root).snapshot.modules.map Module.id).Nodup) :
    (host.outcome config root).diagnostics =
      host.rootProject.diagnostics .rootProject ++
        (host.visitedRefs config root).flatMap host.refDiagnostics ++
        (host.outcome config root).snapshot.modules.flatMap host.facetDiagnostics := by
  have hflat : (((host.composedProjects config root).map host.facetsOf).flatMap
      fun f => f.sourceSets.map (·.1)) =
        (host.outcome config root).snapshot.modules.map Module.id := by
    rw [List.flatMap_map]
    show (host.composedProjects config root).flatMap
      (fun p => (host.sourceSetEntries p.modules).map (·.1)) = _
    simp only [map_fst_sourceSetEntries]
    exact List.map_flatMap.symm
  have hreport : Merged.report config.detectCollisions []
      ((host.composedProjects config root).map host.facetsOf) =
        (host.outcome config root).snapshot.modules.flatMap host.facetDiagnostics := by
    rw [Merged.report_of_nodup _ (hflat ▸ hids) fun _ _ => List.not_mem_nil, List.flatMap_map]
    exact List.flatMap_assoc.symm
  rw [← hreport]
  rfl

end Host

/-- Two aggregations hold the same projects, beginning with the same.  If no two modules have one
id, they hold the same facets, and the same diagnostics in some order. -/
structure Aggregation.Reordered (a₁ a₂ : Aggregation) : Prop where
  first : a₁.snapshot.projects.head? = a₂.snapshot.projects.head?
  projects : a₁.snapshot.projects.Perm a₂.snapshot.projects
  facets : (a₁.snapshot.modules.map Module.id).Nodup →
    a₁.snapshot.toolchains = a₂.snapshot.toolchains ∧
      a₁.snapshot.sourceSets = a₂.snapshot.sourceSets ∧ a₁.diagnostics.Perm a₂.diagnostics

/-- **The order of visits.** Two aggregations of a host that visit the same handles in some order
have reordered outcomes. -/
theorem Host.reordered_outcome (host : Host) {config₁ config₂ : AggregationConfig} {root : Project}
    (h : (host.visitedRefs config₁ root).Perm (host.visitedRefs config₂ root)) :
    (host.outcome config₁ root).Reordered (host.outcome config₂ root) := by
  have hprojects : (host.composedProjects config₁ root).Perm (host.composedProjects config₂ root) :=
    (h.filterMap fun ref => (host.project ref).model).cons root
  have hmodules : (host.outcome config₁ root).snapshot.modules.Perm
      (host.outcome config₂ root).snapshot.modules := hprojects.flatMap_right Project.modules
  constructor
  case first => rfl
  case projects => exact hprojects
  case facets =>
    intro hids
    have hids' := (hmodules.map Module.id).nodup_iff.1 hids
    refine ⟨?_, ?_, ?_⟩
    · apply SortedMap.ofList_of_perm (hmodules.filterMap _)
      exact hids.sublist (host.map_fst_toolchainEntries_sublist _)
    · apply SortedMap.ofList_of_perm (hmodules.map _)
      show ((host.sourceSetEntries _).map (·.1)).Nodup
      rw [host.map_fst_sourceSetEntries]
      exact hids
    · rw [host.diagnostics_outcome_of_nodup hids, host.diagnostics_outcome_of_nodup hids']
      exact ((h.flatMap_right _).append_left _).append (hmodules.flatMap_right _)

end CompositeBuild
