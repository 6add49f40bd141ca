/-
# Discovery by either view

A composite is consistent if its editable builds are the builds that the root build includes, at any
distance.  Then it does not matter which view is trusted: the same builds are discovered in some
order, and the aggregations differ in this order only (`strategies_agree`).
-/
import CompositeBuild.Proofs.Aggregation.Isolation
import CompositeBuild.Proofs.Aggregation.Reordering
import CompositeBuild.Proofs.Discovery.Reachability

namespace CompositeBuild

namespace Dump

/-- The editable builds of a checked dump are, apart from the root build, the builds that are
reached from it. -/
def Checked.IsConsistent (c : Checked) : Prop :=
  ∀ name, name ≠ c.rootBuild → (name ∈ c.dump.editableBuilds ↔ c.dump.Reaches c.rootBuild name)

section Consistent

variable {c : Checked} (hconsistent : c.IsConsistent) {root : Build}
  (hroot : c.dump.build? c.rootBuild = some root)
include hconsistent hroot

/-- Either strategy visits the builds that are reached. -/
theorem mem_namesToVisit_iff (strategy : DiscoveryStrategy) {name : String} :
    name ∈ c.dump.namesToVisit strategy root ↔
      name ≠ c.rootBuild ∧ c.dump.Reaches c.rootBuild name := by
  have hname : root.name = c.rootBuild := name_of_build? hroot
  unfold namesToVisit
  split
  · exact mem_breadthFirst_iff c hroot
  · rw [List.mem_eraseDups, List.mem_filter, decide_eq_true_eq, hname, and_comm]
    exact and_congr_right (hconsistent name)

/-- Both strategies visit the same builds in some order. -/
theorem namesToVisit_perm (s₁ s₂ : DiscoveryStrategy) :
    (c.dump.namesToVisit s₁ root).Perm (c.dump.namesToVisit s₂ root) := by
  have hnodup (s : DiscoveryStrategy) : (c.dump.namesToVisit s root).Nodup :=
    (List.nodup_cons.1 (c.dump.nodup_cons_namesToVisit s root)).2
  refine (List.perm_ext_iff_of_nodup (hnodup s₁) (hnodup s₂)).2 fun name => ?_
  rw [mem_namesToVisit_iff hconsistent hroot, mem_namesToVisit_iff hconsistent hroot]

/-- Both strategies discover the same builds in some order, apart from what they include. -/
theorem discover_perm (s₁ s₂ : DiscoveryStrategy) :
    (((c.dump.graph c.rootBuild).value.discover s₁ c.rootBuild).map BuildRef.alone).Perm
      (((c.dump.graph c.rootBuild).value.discover s₂ c.rootBuild).map BuildRef.alone) := by
  have hname : root.name = c.rootBuild := name_of_build? hroot
  have hperm := namesToVisit_perm hconsistent hroot s₁ s₂
  rw [← hname] at hroot ⊢
  have hbuilds (s : DiscoveryStrategy) :
      ((c.dump.graph root.name).value.discover s root.name).map BuildRef.alone =
        ((c.dump.namesToVisit s root).filterMap c.dump.build?).map Build.ref := by
    rw [map_alone (isUnfolded_of_mem_discover hroot s), map_name_discover hroot c.known_editable]
  rw [hbuilds, hbuilds]
  exact (hperm.filterMap c.dump.build?).map Build.ref

/-- Two aggregations visit the same handles in some order, whichever strategies they use. -/
theorem visitedRefs_perm (toolchain : ToolchainConfig) (config₁ config₂ : AggregationConfig) :
    ((c.host toolchain).visitedRefs config₁ root.model).Perm
      ((c.host toolchain).visitedRefs config₂ root.model) := by
  rw [visitedRefs_host c hroot, visitedRefs_host c hroot]
  exact ((namesToVisit_perm hconsistent hroot _ _).filterMap c.dump.build?).map Build.rootRef

end Consistent

/-- **The strategies agree on a consistent composite.** If the editable builds of a checked dump
are, apart from the root build, the builds that are reached from it, both strategies discover the
same builds. Both aggregations fail with the same error, or both succeed with the same projects, the
root project first; and if no two modules have one id, they hold the same facets and the same
diagnostics, in some order. -/
theorem strategies_agree {c : Checked} (hconsistent : c.IsConsistent) (toolchain : ToolchainConfig)
    (config : AggregationConfig) :
    (((c.host toolchain).graph.value.discover .legacy c.rootBuild).map BuildRef.alone).Perm
        (((c.host toolchain).graph.value.discover .preferEditable c.rootBuild).map
          BuildRef.alone) ∧
      EndAlike Aggregation.Reordered
        ((c.host toolchain).aggregate { config with strategy := some .legacy }).value
        ((c.host toolchain).aggregate { config with strategy := some .preferEditable }).value := by
  obtain ⟨root, hroot, -⟩ := c.exists_root
  refine ⟨discover_perm hconsistent hroot .legacy .preferEditable, ?_⟩
  refine Host.endAlike_of_outcome rfl fun model hmodel => ?_
  obtain rfl : root.model = model := c.model_eq_of_rootProject hroot hmodel
  exact Host.reordered_outcome _ (visitedRefs_perm hconsistent hroot toolchain _ _)

end Dump

/-! ## A consistent composite -/

namespace ConsistentComposite

open Dump IncludeCycles

/-- The root build, which includes itself. -/
def app : Dump.Build := build "app" ["app"] ["lib", "app", "tools"]

/-- A composite whose builds include each other; one of them has no projects but failures.  The
editable builds are listed in another order, one of them twice, and with the root build. -/
def dump : Dump where
  gradleVersion := "8.5"
  rootBuild := none
  builds :=
    [app, build "lib" ["lib", "lib:core"] ["extra", "lib"], build "tools" ["tools"] ["docs", "app"],
     { build "docs" [] ["extra"] with failures := ["offline"] }, build "extra" ["extra"] []]
  editableBuilds := ["docs", "extra", "app", "tools", "docs", "lib"]

/-- The dump after its check. -/
def checked : Dump.Checked := ⟨dump, "app", ⟨8, 5, 0⟩, rfl, by decide, rfl⟩

/-- The composite is consistent. -/
theorem isConsistent : checked.IsConsistent := by
  have hsearch :
      dump.breadthFirst [app.name] app.includedBuilds = ["lib", "tools", "extra", "docs"] := by
    cbv
  have hroot : dump.build? checked.rootBuild = some app := rfl
  intro name hname
  have hreached : name ∈ dump.breadthFirst [app.name] app.includedBuilds ↔
      name ≠ checked.rootBuild ∧ dump.Reaches checked.rootBuild name :=
    mem_breadthFirst_iff checked hroot
  rw [hsearch, and_iff_right hname] at hreached
  show name ∈ ["docs", "extra", "app", "tools", "docs", "lib"] ↔ dump.Reaches checked.rootBuild name
  rw [← hreached]
  have happ : name ≠ "app" := hname
  simp [happ]
  tauto

/-- The host that answers from the dump. -/
def host : Host := checked.host .default

/-- The outcome of an aggregation of the composite with the given strategy. -/
def outcome (strategy : DiscoveryStrategy) : Aggregation :=
  host.outcome { AggregationConfig.default with strategy := some strategy } app.model

/-- The projects of the composite, in the order in which a strategy visits them. -/
theorem projects_outcome (strategy : DiscoveryStrategy) : (outcome strategy).snapshot.projects =
    app.model :: (dump.namesToVisit strategy app).filterMap dump.model? :=
  composedProjects_host checked rfl .default _

end ConsistentComposite

/-- Both strategies on a consistent composite: the builds are visited in different orders, with the
same facets and failures. -/
theorem agreement_of_consistentComposite :
    (ConsistentComposite.host.aggregate
        { AggregationConfig.default with strategy := some .legacy }).value =
          .ok (ConsistentComposite.outcome .legacy) ∧
      (ConsistentComposite.outcome .legacy).snapshot.projects.map Project.build =
        ["app", "lib", "tools", "extra"] ∧
      (ConsistentComposite.outcome .preferEditable).snapshot.projects.map Project.build =
        ["app", "extra", "tools", "lib"] ∧
      (ConsistentComposite.outcome .legacy).snapshot.sourceSets =
        (ConsistentComposite.outcome .preferEditable).snapshot.sourceSets ∧
      (ConsistentComposite.outcome .legacy).diagnostics.Perm
        (ConsistentComposite.outcome .preferEditable).diagnostics := by
  have hok (strategy : DiscoveryStrategy) : (ConsistentComposite.host.aggregate
      { AggregationConfig.default with strategy := some strategy }).value =
        .ok (ConsistentComposite.outcome strategy) :=
    ConsistentComposite.host.aggregate_eq_ok_iff.2 ⟨ConsistentComposite.app.model, rfl, rfl⟩
  have hlegacy : ConsistentComposite.dump.namesToVisit .legacy ConsistentComposite.app =
      ["lib", "tools", "extra", "docs"] := by cbv
  have heditable : ConsistentComposite.dump.namesToVisit .preferEditable ConsistentComposite.app =
      ["docs", "extra", "tools", "lib"] := by cbv
  have hids : ((ConsistentComposite.outcome .legacy).snapshot.modules.map Module.id).Nodup := by
    unfold Snapshot.modules
    rw [ConsistentComposite.projects_outcome, hlegacy]
    decide
  have hagree := (Dump.strategies_agree ConsistentComposite.isConsistent .default .default).2
  rw [← ConsistentComposite.host, hok, hok] at hagree
  obtain ⟨_, _, hfacets⟩ : (ConsistentComposite.outcome .legacy).Reordered
      (ConsistentComposite.outcome .preferEditable) := by
    cases hagree with
    | succeeded hreordered => exact hreordered
  refine ⟨hok .legacy, ?_, ?_, (hfacets hids).2.1, (hfacets hids).2.2⟩
  · rw [ConsistentComposite.projects_outcome, hlegacy]
    cbv
  · rw [ConsistentComposite.projects_outcome, heditable]
    cbv

end CompositeBuild
