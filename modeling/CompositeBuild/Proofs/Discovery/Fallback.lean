/-
# Falling back on the included builds

The editable builds are preferred unless there are none, since hosts sometimes show none although
the root build includes others.  Discovery takes the view that it selects as it is listed, and
leaves out the root build afterwards, so an editable view with nothing but the root build does not
count as empty, and nothing is discovered.  This is the only way in which the editable view hides
included builds (`editable_view_hides_nothing_iff`).
-/
import CompositeBuild.Proofs.Discovery.CapturedBuilds
import CompositeBuild.Proofs.Discovery.SearchOrder

namespace CompositeBuild

namespace BuildRef

variable {root : String} {builds : List BuildRef}

/-- The list has no build but the root. -/
def OnlyRoot (root : String) (builds : List BuildRef) : Prop := ∀ b ∈ builds, b.name = root

/-- Nothing is found in a flat list exactly if it has no build but the root. -/
theorem firstOfEach_eq_nil_iff : firstOfEach root builds = [] ↔ OnlyRoot root builds := by
  rw [firstOfEach_eq_firstsBy]
  constructor
  · intro h b hb
    by_contra hname
    have hfirst : b.name ∈ (firstsBy BuildRef.name root builds).map BuildRef.name :=
      mem_map_firstsBy.2 ⟨hname, List.mem_map_of_mem hb⟩
    rw [h] at hfirst
    exact List.not_mem_nil hfirst
  · intro h
    rw [← List.map_eq_nil_iff (f := BuildRef.name), List.eq_nil_iff_forall_not_mem]
    intro name hname
    obtain ⟨hne, hlisted⟩ := mem_map_firstsBy.1 hname
    obtain ⟨b, hb, rfl⟩ := List.mem_map.1 hlisted
    exact hne (h b hb)

/-- The walk finds nothing exactly if it starts from no build but the root. -/
theorem walk_eq_nil_iff : walk root [] builds = [] ↔ OnlyRoot root builds := by
  constructor
  · intro h b hb
    by_contra hname
    have hlisted := (isSearch_walk root builds).listed b hb hname
    rw [h] at hlisted
    exact List.not_mem_nil hlisted
  · intro h
    induction builds with
    | nil => exact walk_nil
    | cons b rest ih =>
      obtain ⟨hb, hrest⟩ := List.forall_mem_cons.1 h
      rw [walk_of_seen (.inl hb)]
      exact ih hrest

end BuildRef

namespace BuildGraph

/-- The builds that a view of a graph lists. -/
def listed (g : BuildGraph) : BuildView → List BuildRef
  | .included => g.includedBuilds
  | .editable => g.editableBuilds

/-- Nothing is discovered exactly if the selected view lists no build but the root. -/
theorem discover_eq_nil_iff (g : BuildGraph) (strategy : DiscoveryStrategy) (root : String) :
    g.discover strategy root = [] ↔ BuildRef.OnlyRoot root (g.listed (g.view strategy)) := by
  unfold discover
  cases g.view strategy with
  | included => exact BuildRef.walk_eq_nil_iff
  | editable => exact BuildRef.firstOfEach_eq_nil_iff

/-- The preferred view is that of the editable builds exactly if there are any. -/
theorem view_preferEditable (g : BuildGraph) :
    g.view .preferEditable = if g.editableBuilds = [] then .included else .editable := by
  unfold view
  simp only [List.isEmpty_iff]

/-- **When the editable view hides nothing.** A strategy discovers nothing exactly if the view that
it selects lists no build but the root.  So a graph without builds by its editable view has none by
its included view either, unless the editable view lists the root build, once or more and alone, and
the included view lists another. -/
theorem editable_view_hides_nothing_iff (g : BuildGraph) (root : String) :
    (∀ strategy, g.discover strategy root = [] ↔
      ∀ b ∈ g.listed (g.view strategy), b.name = root) ∧
    ((g.discover .preferEditable root = [] → g.discover .legacy root = []) ↔
      g.editableBuilds = [] ∨ (∃ b ∈ g.editableBuilds, b.name ≠ root) ∨
        ∀ b ∈ g.includedBuilds, b.name = root) := by
  refine ⟨fun strategy => g.discover_eq_nil_iff strategy root, ?_⟩
  have hlegacy : g.discover .legacy root = [] ↔ BuildRef.OnlyRoot root g.includedBuilds :=
    g.discover_eq_nil_iff .legacy root
  have heditable := g.discover_eq_nil_iff .preferEditable root
  rw [view_preferEditable] at heditable
  rw [hlegacy, heditable]
  by_cases hempty : g.editableBuilds = []
  · simp [hempty, listed]
  · rw [if_neg hempty]
    have hother : (∃ b ∈ g.editableBuilds, b.name ≠ root) ↔
        ¬ BuildRef.OnlyRoot root g.editableBuilds := by
      simp [BuildRef.OnlyRoot]
    rw [hother, or_iff_right hempty, imp_iff_not_or]
    rfl

end BuildGraph

/-! ## A root build among the editable ones -/

namespace RootAmongEditable

open IncludeCycles (build)

/-- A dump of a root build that includes another, where only the root build is editable. -/
def dump : Dump where
  gradleVersion := "8.5"
  rootBuild := none
  builds := [build "app" [":"] ["lib"], build "lib" [":"] []]
  editableBuilds := ["app"]

/-- The dump after its check. -/
def checked : Dump.Checked := ⟨dump, "app", ⟨8, 5, 0⟩, rfl, by decide, rfl⟩

/-- The graph of the dump. -/
def graph : BuildGraph := (dump.graph "app").value

/-- **A composite that is hidden.** The dump passes its check, but nothing is discovered in its
graph if the editable view is preferred, although the root build includes another. -/
theorem composite_is_hidden :
    dump.check = .ok checked ∧
      graph.discover .preferEditable "app" = [] ∧
      (graph.discover .legacy "app").map BuildRef.name = ["lib"] ∧
      ¬ (graph.discover .preferEditable "app" = [] → graph.discover .legacy "app" = []) := by
  have hhidden : graph.discover .preferEditable "app" = [] :=
    (graph.discover_eq_nil_iff _ _).2 (List.forall_mem_singleton.2 rfl)
  have hfound : (graph.discover .legacy "app").map BuildRef.name = ["lib"] := by
    cbv
  refine ⟨rfl, hhidden, hfound, fun h => ?_⟩
  rw [h hhidden] at hfound
  exact absurd hfound (List.cons_ne_nil _ _).symm

end RootAmongEditable

end CompositeBuild
