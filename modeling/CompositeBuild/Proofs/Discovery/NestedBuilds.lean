/-
# Builds below builds

Discovery keeps one build of each name and passes over the others together with what they include.
So it finds the names of all builds, at any depth, exactly if what is passed over is found elsewhere
(`nested_builds_are_found`).  This holds if the builds of one name differ only by cycles that are
cut, as in the graphs of dumps (`differByCycles_graph`), but not if a build is expanded at one place
only.
-/
import CompositeBuild.Proofs.Discovery.IncludePaths
import CompositeBuild.Proofs.Discovery.KnownBuilds
import CompositeBuild.Proofs.Discovery.SearchOrder

namespace CompositeBuild

namespace BuildRef

/-! ## Places of builds -/

section Places

variable {r c : BuildRef} {builds : List BuildRef} {path : List String}

/-- What a build includes occurs where the build does. -/
theorem OccursIn.of_included (h : r.OccursIn builds) (hc : c ∈ r.included) : c.OccursIn builds := by
  induction h with
  | listed hr => exact .included hr (.listed hc)
  | included hb _ ih => exact .included hb ih

/-- What a build includes stands at its path with one name more. -/
theorem IsAt.concat (h : r.IsAt builds path) (hc : c ∈ r.included) :
    c.IsAt builds (path ++ [c.name]) := by
  induction h with
  | listed hr => exact .nested hr (.listed hc)
  | nested hb _ ih => exact .nested hb ih

theorem IsAt.name_mem (h : r.IsAt builds path) : r.name ∈ path := by
  induction h with
  | listed hr => exact List.mem_singleton_self _
  | nested hb _ ih => exact List.mem_cons_of_mem _ ih

/-- A build occurs exactly if it stands at some path. -/
theorem occursIn_iff_exists_isAt : r.OccursIn builds ↔ ∃ path, r.IsAt builds path := by
  constructor
  · intro h
    induction h with
    | listed hr => exact ⟨_, .listed hr⟩
    | included hb _ ih =>
      obtain ⟨path, hpath⟩ := ih
      exact ⟨_, .nested hb hpath⟩
  · rintro ⟨path, h⟩
    induction h with
    | listed hr => exact .listed hr
    | nested hb _ ih => exact .included hb ih

end Places

/-! ## What is passed over -/

/-- Nothing is lost with a build that is passed over: what a build of a found name includes,
wherever it occurs, is found. -/
def LosesNothing (top found : List BuildRef) : Prop :=
  ∀ b : BuildRef, b.OccursIn top → b.name ∈ found.map BuildRef.name →
    ∀ c ∈ b.included, c.name ∈ found.map BuildRef.name

/-- The builds of one name include builds of the same names, except that each may leave out those on
the way to it. -/
def DifferByCycles (top : List BuildRef) : Prop :=
  ∀ (b b' : BuildRef) (path path' : List String), b.IsAt top path → b'.IsAt top path' →
    b.name = b'.name → ∀ c ∈ b'.included, c.name ∈ b.included.map BuildRef.name ∨ c.name ∈ path

namespace IsSearch

variable {root : String} {top found : List BuildRef} (h : IsSearch root top found)
include h

theorem nodup_names : (found.map BuildRef.name).Nodup := (List.nodup_cons.1 h.distinct).2

/-- A found build stands at a path of found builds. -/
theorem exists_path (i : ℕ) (hi : i < found.length) :
    ∃ path, found[i].IsAt top path ∧ path ⊆ found.map BuildRef.name := by
  -- The build that includes it is found before it.
  induction i using Nat.strongRecOn with
  | ind i ih =>
    have hname : found[i].name ∈ found.map BuildRef.name :=
      List.mem_map_of_mem (List.getElem_mem hi)
    rcases h.reached i hi with htop | ⟨j, hj, hincluded⟩
    · exact ⟨_, .listed htop, List.cons_subset.2 ⟨hname, List.nil_subset _⟩⟩
    · obtain ⟨path, hpath, hsub⟩ := ih j hj (Nat.lt_trans hj hi)
      refine ⟨_, hpath.concat hincluded, List.append_subset.2 ⟨hsub, ?_⟩⟩
      exact List.cons_subset.2 ⟨hname, List.nil_subset _⟩

/-- Every found build occurs where the search starts. -/
theorem occursIn_of_mem {r : BuildRef} (hr : r ∈ found) : r.OccursIn top := by
  obtain ⟨i, hi, rfl⟩ := List.mem_iff_getElem.1 hr
  obtain ⟨path, hpath, -⟩ := h.exists_path i hi
  exact occursIn_iff_exists_isAt.2 ⟨path, hpath⟩

section OtherRoot

variable (hroot : ∀ b : BuildRef, b.OccursIn top → b.name ≠ root)
include hroot

/-- The search finds the names of all builds exactly if nothing is lost with those that it passes
over. -/
theorem forall_name_mem_iff :
    (∀ b : BuildRef, b.OccursIn top → b.name ∈ found.map BuildRef.name) ↔
      LosesNothing top found := by
  constructor
  · exact fun hall b hb _ c hc => hall c (hb.of_included hc)
  · intro hnothing b hb
    -- From a build that occurs under a found name, this passes to what the build includes.
    refine (hb.of_forall (P := fun b => b.OccursIn top ∧ b.name ∈ found.map BuildRef.name) ?_ ?_).2
    · exact fun b ⟨hb, hname⟩ c hc => ⟨hb.of_included hc, hnothing b hb hname c hc⟩
    · exact fun b hb => ⟨.listed hb, h.listed b hb (hroot b (.listed hb))⟩

/-- Nothing is lost if the builds of one name differ by cycles only. -/
theorem losesNothing_of_differByCycles (hcycles : DifferByCycles top) : LosesNothing top found := by
  intro b hb hname c hc
  obtain ⟨r, hr, hsame⟩ := List.mem_map.1 hname
  obtain ⟨i, hi, rfl⟩ := List.mem_iff_getElem.1 hr
  obtain ⟨path, hpath, hsub⟩ := h.exists_path i hi
  obtain ⟨path', hpath'⟩ := occursIn_iff_exists_isAt.1 hb
  rcases hcycles _ _ path path' hpath hpath' hsame c hc with hincluded | hway
  · obtain ⟨c', hc', hcname⟩ := List.mem_map.1 hincluded
    have hne : c'.name ≠ root := hroot c' ((h.occursIn_of_mem hr).of_included hc')
    exact hcname ▸ h.included _ hr c' hc' hne
  · exact hsub hway

end OtherRoot

end IsSearch

end BuildRef

namespace BuildGraph

/-- **Which nested builds are found.** If no included build, at any depth, has the root's name, then
each of their names is that of exactly one discovered build, if and only if nothing is lost with the
builds that are passed over.  This is so if the builds of one name differ by cycles only.  In any
case no other builds are discovered, and no two of one name. -/
theorem nested_builds_are_found {g : BuildGraph} {root : String}
    (hroot : ∀ b : BuildRef, b.OccursIn g.includedBuilds → b.name ≠ root) :
    ((∀ b : BuildRef, b.OccursIn g.includedBuilds →
        ((g.discover .legacy root).map BuildRef.name).count b.name = 1) ↔
      BuildRef.LosesNothing g.includedBuilds (g.discover .legacy root)) ∧
    (BuildRef.DifferByCycles g.includedBuilds →
      ∀ b : BuildRef, b.OccursIn g.includedBuilds →
        ((g.discover .legacy root).map BuildRef.name).count b.name = 1) ∧
    (∀ r ∈ g.discover .legacy root, r.OccursIn g.includedBuilds) ∧
    ((g.discover .legacy root).map BuildRef.name).Nodup := by
  have h : BuildRef.IsSearch root g.includedBuilds (g.discover .legacy root) :=
    BuildRef.isSearch_walk root g.includedBuilds
  have hcount (b : BuildRef) : ((g.discover .legacy root).map BuildRef.name).count b.name = 1 ↔
      b.name ∈ (g.discover .legacy root).map BuildRef.name :=
    ⟨fun hone => List.count_pos_iff.1 (by omega), List.count_eq_one_of_mem h.nodup_names⟩
  simp only [hcount]
  have hiff := h.forall_name_mem_iff hroot
  exact ⟨hiff, fun hcycles => hiff.2 (h.losesNothing_of_differByCycles hroot hcycles),
    fun r => h.occursIn_of_mem, h.nodup_names⟩

end BuildGraph

/-! ## Graphs of dumps -/

namespace Dump

/-- In the graph of a dump the builds of one name differ by cycles only. -/
theorem differByCycles_graph (c : Checked) :
    BuildRef.DifferByCycles (c.dump.graph c.rootBuild).value.includedBuilds := by
  obtain ⟨root, hroot, -⟩ := c.exists_root
  rw [includedBuilds_graph hroot]
  intro b b' path path' hpath hpath' hname included hincluded
  obtain ⟨build, hbuild, hnames⟩ := map_name_included_of_isAt c hpath
  obtain ⟨build', hbuild', hnames'⟩ := map_name_included_of_isAt c hpath'
  obtain rfl : build = build' := by
    rw [hname, hbuild'] at hbuild
    exact (Option.some.inj hbuild).symm
  -- What the one shows is not the root build, so the other shows it or stands below it.
  have hmem : included.name ∈ b'.included.map BuildRef.name := List.mem_map_of_mem hincluded
  rw [hnames', List.mem_filter] at hmem
  rw [hnames, List.mem_filter]
  simp only [List.mem_append, decide_eq_true_eq, not_or] at hmem ⊢
  tauto

/-! ### A dump with cycles -/

namespace CyclesThroughRoot

/-- Two builds of this dump are shown twice, with other builds below them each time, and both are
found. -/
theorem nested_builds_of_dump :
    (∀ b : BuildRef, b.OccursIn (dump.graph "app").value.includedBuilds → b.name ≠ "app") ∧
      BuildRef.DifferByCycles (dump.graph "app").value.includedBuilds ∧
      ∀ b : BuildRef, b.OccursIn (dump.graph "app").value.includedBuilds →
        (((dump.graph "app").value.discover .legacy "app").map BuildRef.name).count b.name = 1 := by
  have hcycles : BuildRef.DifferByCycles (dump.graph "app").value.includedBuilds :=
    differByCycles_graph checked
  have hself : ¬ dump.Includes "app" "app" := by
    rintro ⟨b, hb, hmem⟩
    obtain rfl : build "app" ["lib", "tools"] = b := Option.some.inj hb
    revert hmem
    decide
  have hroot : ∀ b : BuildRef, b.OccursIn (dump.graph "app").value.includedBuilds →
      b.name ≠ "app" := by
    intro b hb hname
    obtain ⟨path, hpath⟩ := BuildRef.occursIn_iff_exists_isAt.1 hb
    obtain ⟨-, -, hnodup⟩ := ((showsPath_iff_isSimplePath_iff checked).2 hself path).1 ⟨b, hpath⟩
    have hmem := hpath.name_mem
    rw [hname] at hmem
    exact (List.nodup_cons.1 hnodup).1 hmem
  exact ⟨hroot, hcycles, (BuildGraph.nested_builds_are_found hroot).2.1 hcycles⟩

end CyclesThroughRoot

end Dump

/-! ## Builds that are expanded once -/

namespace ExpandedOnce

/-- A build with what it includes. -/
def tools : BuildRef := (BuildRef.ofName "tools").withIncluded (.ofName "docs")

/-- A build that includes it. -/
def core : BuildRef := (BuildRef.ofName "core").withIncluded tools

/-- The graph of a host that expands a build where it comes to it first, going down before it goes
on: it shows `docs` below `tools` in `core`, but not below `tools` again. -/
def graph : BuildGraph where
  includedBuilds := [core, .ofName "tools"]
  editableBuilds := []

/-- The builds of this graph. -/
theorem mem_of_occursIn {b : BuildRef} (h : b.OccursIn graph.includedBuilds) :
    b ∈ [core, tools, .ofName "tools", .ofName "docs"] := by
  refine h.of_forall (P := (· ∈ [core, tools, .ofName "tools", .ofName "docs"])) ?_ ?_
  · simp [core, tools, BuildRef.withIncluded, BuildRef.ofName]
  · simp [graph]

/-- **A nested build that is lost.** Discovery comes to the bare build before the expanded one, so
it passes over the latter and does not find what it includes. -/
theorem nested_build_is_lost :
    (∀ b : BuildRef, b.OccursIn graph.includedBuilds → b.name ≠ "app") ∧
      (BuildRef.ofName "docs").OccursIn graph.includedBuilds ∧
      (graph.discover .legacy "app").map BuildRef.name = ["core", "tools"] ∧
      ((graph.discover .legacy "app").map BuildRef.name).count "docs" ≠ 1 := by
  have hnames : ∀ b ∈ [core, tools, .ofName "tools", .ofName "docs"], b.name ≠ "app" := by decide
  have hfound : (graph.discover .legacy "app").map BuildRef.name = ["core", "tools"] := by cbv
  refine ⟨fun b hb => hnames b (mem_of_occursIn hb), ?_, hfound, by rw [hfound]; decide⟩
  exact .included List.mem_cons_self (.included List.mem_cons_self (.listed List.mem_cons_self))

end ExpandedOnce

end CompositeBuild
