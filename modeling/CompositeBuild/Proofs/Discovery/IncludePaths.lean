/-
# Paths of includes

The view of the included builds shows each build below the builds that lead to it, and nothing below
itself.  The paths through it are those chains of includes that come to no build twice, with one
exception: what the root build includes is followed without a look at the chain, so a root build
that includes itself is shown below itself (`showsPath_graph_iff`).
-/
import CompositeBuild.Proofs.Discovery.Reachability

namespace CompositeBuild

/-- A build stands at a path of names in some builds: it is one of them, or it stands at the rest of
the path in what one of them includes. -/
inductive BuildRef.IsAt (r : BuildRef) : List BuildRef → List String → Prop
  | listed {builds : List BuildRef} : r ∈ builds → IsAt r builds [r.name]
  | nested {builds : List BuildRef} {b : BuildRef} {path : List String} :
      b ∈ builds → IsAt r b.included path → IsAt r builds (b.name :: path)

namespace BuildRef

theorem not_isAt_nil {r : BuildRef} {builds : List BuildRef} : ¬ r.IsAt builds [] := nofun

/-- A build stands at a path if the first name is its own and ends the path, or if it is that of a
build that has it at the rest of the path. -/
theorem isAt_cons_iff {r : BuildRef} {builds : List BuildRef} {name : String} {path : List String} :
    r.IsAt builds (name :: path) ↔
      ∃ b ∈ builds, b.name = name ∧ (path = [] ∧ r = b ∨ r.IsAt b.included path) := by
  constructor
  · intro h
    cases h with
    | listed hr => exact ⟨r, hr, rfl, .inl ⟨rfl, rfl⟩⟩
    | nested hb hr => exact ⟨_, hb, rfl, .inr hr⟩
  · rintro ⟨b, hb, rfl, ⟨rfl, rfl⟩ | hr⟩
    · exact .listed hb
    · exact .nested hb hr

end BuildRef

/-- A path of names leads through the included builds that a graph shows. -/
def BuildGraph.ShowsPath (g : BuildGraph) (path : List String) : Prop :=
  ∃ r : BuildRef, r.IsAt g.includedBuilds path

namespace Dump

variable (d : Dump)

/-- A path of names leads through includes from a build, without coming back to it or to any other
build twice. -/
def IsSimplePath (root : String) (path : List String) : Prop :=
  path ≠ [] ∧ (root :: path).IsChain d.Includes ∧ (root :: path).Nodup

/-! ## Unfolded names -/

/-- The builds of some names, unfolded below a chain of names. -/
def unfoldAll (chain names : List String) : List BuildRef :=
  (names.filterMap d.build?).map (d.unfold chain)

/-- What a build includes is unfolded, except for the builds on the chain. -/
theorem includedRefs_value (chain names : List String) :
    (d.includedRefs chain names).value = d.unfoldAll chain (names.filter (· ∉ chain)) := by
  induction names with
  | nil => rw [includedRefs_nil]; rfl
  | cons name rest ih =>
    by_cases hname : name ∈ chain
    · rw [includedRefs_of_mem d hname, ih, List.filter_cons_of_neg (by simpa using hname)]
    · rw [List.filter_cons_of_pos (by simpa using hname)]
      cases hbuild : d.build? name with
      | none =>
        rw [includedRefs_of_none d hbuild, ih, unfoldAll, unfoldAll,
          List.filterMap_cons_none hbuild]
      | some b =>
        rw [includedRefs_of_some d hname hbuild, ih, unfoldAll, unfoldAll,
          List.filterMap_cons_some hbuild, List.map_cons]

/-- An unfolded build includes what its build does, except for itself and the builds on the
chain. -/
theorem included_unfold (chain : List String) (b : Build) : (d.unfold chain b).included =
    d.unfoldAll (b.name :: chain) (b.includedBuilds.filter (· ∉ b.name :: chain)) :=
  d.includedRefs_value (b.name :: chain) b.includedBuilds

variable {d}

theorem map_name_unfoldAll {chain names : List String}
    (hknown : ∀ name ∈ names, (d.build? name).isSome) :
    (d.unfoldAll chain names).map BuildRef.name = names := by
  rw [unfoldAll, List.map_map]
  exact d.filterMap_build?_map_name hknown

/-- A build stands at a path in unfolded builds if it is the build of its only name, or if it stands
at the rest of the path in what the build of the first name includes beside those on the chain. -/
theorem isAt_unfoldAll_cons_iff {r : BuildRef} {chain names path : List String} {name : String} :
    r.IsAt (d.unfoldAll chain names) (name :: path) ↔
      name ∈ names ∧ ∃ b, d.build? name = some b ∧
        (path = [] ∧ r = d.unfold chain b ∨
          r.IsAt (d.unfoldAll (name :: chain)
            (b.includedBuilds.filter (· ∉ name :: chain))) path) := by
  rw [BuildRef.isAt_cons_iff]
  constructor
  · rintro ⟨_, hmem, hname, h⟩
    obtain ⟨b, hb, rfl⟩ := List.mem_map.1 hmem
    obtain ⟨name', hname', hbuild⟩ := List.mem_filterMap.1 hb
    rw [unfold_name] at hname
    obtain rfl : name' = name := (name_of_build? hbuild).symm.trans hname
    rw [included_unfold, hname] at h
    exact ⟨hname', b, hbuild, h⟩
  · rintro ⟨hname, b, hbuild, h⟩
    refine ⟨d.unfold chain b, ?_, name_of_build? hbuild, ?_⟩
    · exact List.mem_map_of_mem (List.mem_filterMap.2 ⟨name, hname, hbuild⟩)
    · rwa [included_unfold, name_of_build? hbuild]

/-- The included builds of the graph are those that the root build includes, unfolded. -/
theorem includedBuilds_graph {rootBuild : String} {root : Build}
    (hroot : d.build? rootBuild = some root) :
    (d.graph rootBuild).value.includedBuilds = d.unfoldAll [rootBuild] root.includedBuilds := by
  have hname : root.name = rootBuild := name_of_build? hroot
  rw [← hname] at hroot ⊢
  rw [graph_value hroot]
  exact d.rootIncludes_value root

/-! ## Checked dumps -/

section Checked

variable (c : Checked)

/-- **The paths of unfolded builds.** They start with one of the names and follow the includes
without coming to a name twice or, after the first, to one on the chain. -/
theorem exists_isAt_unfoldAll_iff {chain names path : List String} {name : String}
    (hknown : ∀ name ∈ names, (c.dump.build? name).isSome) :
    (∃ r : BuildRef, r.IsAt (c.dump.unfoldAll chain names) (name :: path)) ↔
      name ∈ names ∧ (name :: path).IsChain c.dump.Includes ∧ (name :: path).Nodup ∧
        ∀ n ∈ path, n ∉ chain := by
  -- The induction is on the rest of the path; each name goes onto the chain for what stands below
  -- it.
  induction path generalizing chain names name with
  | nil =>
    constructor
    · rintro ⟨r, hr⟩
      simpa using (isAt_unfoldAll_cons_iff.1 hr).1
    · rintro ⟨hname, -⟩
      obtain ⟨b, hbuild⟩ := Option.isSome_iff_exists.1 (hknown name hname)
      exact ⟨_, isAt_unfoldAll_cons_iff.2 ⟨hname, b, hbuild, .inl ⟨rfl, rfl⟩⟩⟩
  | cons next path ih =>
    constructor
    · rintro ⟨r, hr⟩
      obtain ⟨hname, b, hbuild, hr⟩ := isAt_unfoldAll_cons_iff.1 hr
      replace hr := hr.resolve_left fun h => List.cons_ne_nil _ _ h.1
      have hrest := c.known_included (List.mem_of_find?_eq_some hbuild)
      obtain ⟨hnext, hchain, hnodup, hoff⟩ :=
        (ih fun n hn => hrest n (List.mem_filter.1 hn).1).1 ⟨r, hr⟩
      obtain ⟨hincluded, hnew⟩ := List.mem_filter.1 hnext
      -- No name of the rest is on the chain or the name above it.
      have hall : ∀ n ∈ next :: path, n ∉ name :: chain :=
        List.forall_mem_cons.2 ⟨by simpa using hnew, hoff⟩
      refine ⟨hname, List.isChain_cons_cons.2 ⟨⟨b, hbuild, hincluded⟩, hchain⟩,
        List.nodup_cons.2 ⟨fun hmem => hall name hmem List.mem_cons_self, hnodup⟩, ?_⟩
      exact fun n hn hmem => hall n hn (List.mem_cons_of_mem _ hmem)
    · rintro ⟨hname, hchain, hnodup, hoff⟩
      obtain ⟨⟨b, hbuild, hincluded⟩, hchain⟩ := List.isChain_cons_cons.1 hchain
      obtain ⟨hnot, hnodup⟩ := List.nodup_cons.1 hnodup
      have hrest := c.known_included (List.mem_of_find?_eq_some hbuild)
      have hall : ∀ n ∈ next :: path, n ∉ name :: chain := by
        intro n hn
        rw [List.mem_cons, not_or]
        exact ⟨fun heq => hnot (heq ▸ hn), hoff n hn⟩
      obtain ⟨hnew, hoff⟩ := List.forall_mem_cons.1 hall
      have hnext : next ∈ b.includedBuilds.filter (· ∉ name :: chain) :=
        List.mem_filter.2 ⟨hincluded, by simpa using hnew⟩
      obtain ⟨r, hr⟩ := (ih fun n hn => hrest n (List.mem_filter.1 hn).1).2
        ⟨hnext, hchain, hnodup, hoff⟩
      exact ⟨r, isAt_unfoldAll_cons_iff.2 ⟨hname, b, hbuild, .inr hr⟩⟩

/-- What stands below a build at a path is what it includes, in the same order, except for the
builds of the path and of the chain. -/
theorem map_name_included_of_isAt {chain names path : List String} {r : BuildRef}
    (hr : r.IsAt (c.dump.unfoldAll chain names) path) :
    ∃ b, c.dump.build? r.name = some b ∧
      r.included.map BuildRef.name = b.includedBuilds.filter (· ∉ path ++ chain) := by
  induction path generalizing chain names with
  | nil => exact absurd hr BuildRef.not_isAt_nil
  | cons name path ih =>
    obtain ⟨-, b, hbuild, ⟨rfl, rfl⟩ | hr⟩ := isAt_unfoldAll_cons_iff.1 hr
    · rw [unfold_name, included_unfold, name_of_build? hbuild]
      refine ⟨b, hbuild, map_name_unfoldAll fun n hn => ?_⟩
      exact c.known_included (List.mem_of_find?_eq_some hbuild) n (List.mem_filter.1 hn).1
    · obtain ⟨b', hbuild', hincluded⟩ := ih hr
      refine ⟨b', hbuild', hincluded.trans (List.filter_congr fun n _ => ?_)⟩
      simp only [List.mem_append, List.mem_cons, decide_eq_decide]
      tauto

/-! ## The view of the included builds -/

/-- The paths in the view of the included builds are the chains of includes from the root build that
come to no name twice, and to the root build at most with their first step. -/
theorem showsPath_graph_iff {path : List String} :
    (c.dump.graph c.rootBuild).value.ShowsPath path ↔
      path ≠ [] ∧ (c.rootBuild :: path).IsChain c.dump.Includes ∧ path.Nodup ∧
        c.rootBuild ∉ path.tail := by
  obtain ⟨root, hroot, -⟩ := c.exists_root
  unfold BuildGraph.ShowsPath
  rw [includedBuilds_graph hroot]
  cases path with
  | nil => simp [BuildRef.not_isAt_nil]
  | cons name path =>
    have hincludes : c.dump.Includes c.rootBuild name ↔ name ∈ root.includedBuilds := by
      simp [Includes, hroot]
    rw [exists_isAt_unfoldAll_iff c (c.known_included (List.mem_of_find?_eq_some hroot)),
      List.isChain_cons_cons, hincludes]
    simp only [ne_eq, List.cons_ne_nil, not_false_eq_true, true_and, List.tail_cons,
      List.mem_singleton, and_assoc]
    refine and_congr_right fun _ => and_congr_right fun _ => and_congr_right fun _ => ?_
    exact ⟨fun hoff hmem => hoff _ hmem rfl, fun hnot n hn heq => hnot (heq ▸ hn)⟩

/-- The paths in the view are the simple ones exactly if the root build does not include itself. -/
theorem showsPath_iff_isSimplePath_iff :
    (∀ path,
        (c.dump.graph c.rootBuild).value.ShowsPath path ↔ c.dump.IsSimplePath c.rootBuild path) ↔
      ¬ c.dump.Includes c.rootBuild c.rootBuild := by
  constructor
  · intro hall hself
    have hshown : (c.dump.graph c.rootBuild).value.ShowsPath [c.rootBuild] :=
      (showsPath_graph_iff c).2 (by simpa using hself)
    obtain ⟨-, -, hnodup⟩ := (hall _).1 hshown
    simp at hnodup
  · intro hself path
    rw [showsPath_graph_iff c]
    unfold IsSimplePath
    refine and_congr_right fun hne => and_congr_right fun hchain => ?_
    obtain ⟨name, path, rfl⟩ := List.exists_cons_of_ne_nil hne
    have hfirst : c.rootBuild ≠ name := by
      rintro hname
      exact hself (hname ▸ (List.isChain_cons_cons.1 hchain).1)
    rw [List.nodup_cons (a := c.rootBuild), List.mem_cons, not_or, List.tail_cons]
    tauto

end Checked

/-- **The paths of the view of the included builds.** They are the chains of includes from the root
build that come to no name twice, and to the root build at most with their first step; so they are
the chains that come to no build twice, the root build among them, exactly if the root build does
not include itself. What a build shows below it is what it includes, in order, without the builds of
the path to it. -/
theorem include_paths (c : Checked) :
    (∀ path, (c.dump.graph c.rootBuild).value.ShowsPath path ↔
      path ≠ [] ∧ (c.rootBuild :: path).IsChain c.dump.Includes ∧ path.Nodup ∧
        c.rootBuild ∉ path.tail) ∧
    ((∀ path,
        (c.dump.graph c.rootBuild).value.ShowsPath path ↔ c.dump.IsSimplePath c.rootBuild path) ↔
      ¬ c.dump.Includes c.rootBuild c.rootBuild) ∧
    (∃ root, c.dump.build? c.rootBuild = some root ∧
      (c.dump.graph c.rootBuild).value.includedBuilds.map BuildRef.name = root.includedBuilds) ∧
    ∀ (r : BuildRef) (path : List String),
      r.IsAt (c.dump.graph c.rootBuild).value.includedBuilds path →
        ∃ b, c.dump.build? r.name = some b ∧
          r.included.map BuildRef.name =
            b.includedBuilds.filter (· ∉ c.rootBuild :: path) := by
  obtain ⟨root, hroot, -⟩ := c.exists_root
  refine ⟨fun path => showsPath_graph_iff c, showsPath_iff_isSimplePath_iff c,
    ⟨root, hroot, ?_⟩, fun r path hr => ?_⟩
  · rw [includedBuilds_graph hroot]
    exact map_name_unfoldAll (c.known_included (List.mem_of_find?_eq_some hroot))
  · rw [includedBuilds_graph hroot] at hr
    obtain ⟨b, hbuild, hincluded⟩ := map_name_included_of_isAt c hr
    refine ⟨b, hbuild, hincluded.trans (List.filter_congr fun n _ => ?_)⟩
    simp only [List.mem_append, List.mem_cons, List.not_mem_nil, decide_eq_decide]
    tauto

/-! ### Builds that include the root build -/

namespace CyclesThroughRoot

/-- A build without projects. -/
def build (name : String) (includedBuilds : List String) : Build where
  name := name
  rootDir := none
  languageLevel := none
  projects := []
  includedBuilds := includedBuilds
  failures := []

/-- A dump in which every build includes the two others, and one of them itself. -/
def dump : Dump where
  gradleVersion := "7.6"
  rootBuild := none
  builds :=
    [build "app" ["lib", "tools"],
      build "lib" ["tools", "lib", "app"],
      build "tools" ["app", "lib"]]
  editableBuilds := []

/-- The dump after its check. -/
def checked : Checked := ⟨dump, "app", ⟨7, 6, 0⟩, rfl, by decide, rfl⟩

/-- Every cycle of this dump is cut. -/
theorem paths_of_dump :
    dump.check = .ok checked ∧
      (∀ path, (dump.graph "app").value.ShowsPath path ↔ dump.IsSimplePath "app" path) ∧
      (dump.graph "app").value.includedBuilds.map BuildRef.name = ["lib", "tools"] := by
  obtain ⟨-, hsimple, ⟨root, hroot, hlisted⟩, -⟩ := include_paths checked
  obtain rfl : build "app" ["lib", "tools"] = root := Option.some.inj hroot
  refine ⟨rfl, hsimple.2 ?_, hlisted⟩
  rintro ⟨b, hb, hself⟩
  obtain rfl : build "app" ["lib", "tools"] = b := Option.some.inj hb
  revert hself
  decide

/-- A dump of a root build that includes itself. -/
def ownInclude : Dump := { dump with builds := [build "app" ["app"]] }

/-- That dump after its check. -/
def ownIncludeChecked : Checked := ⟨ownInclude, "app", ⟨7, 6, 0⟩, rfl, by decide, rfl⟩

/-- The root build is shown below itself, if it includes itself. -/
theorem root_below_root :
    ownInclude.check = .ok ownIncludeChecked ∧
      (ownInclude.graph "app").value.ShowsPath ["app"] ∧
      ¬ ownInclude.IsSimplePath "app" ["app"] := by
  refine ⟨rfl, (showsPath_graph_iff ownIncludeChecked).2 ⟨?_, ?_, ?_, ?_⟩, ?_⟩
  · exact List.cons_ne_nil _ _
  · exact List.isChain_cons_cons.2 ⟨⟨build "app" ["app"], rfl, by decide⟩, .singleton _⟩
  · decide
  · decide
  · rintro ⟨-, -, hnodup⟩
    revert hnodup
    decide

end CyclesThroughRoot

end Dump

end CompositeBuild
