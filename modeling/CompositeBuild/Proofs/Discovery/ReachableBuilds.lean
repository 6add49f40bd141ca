/-
# Builds that matter

An aggregation of a dump meets the builds that are reached from the root build and the editable
builds, and looks up no others.  So two dumps with the same builds under these names have the same
results, whatever else they hold (`only_builds_in_scope_matter`).
-/
import CompositeBuild.Proofs.Aggregation.Agreement
import CompositeBuild.Proofs.Discovery.Reachability

namespace CompositeBuild

namespace Dump

/-! ## Lookups in two dumps -/

section Lookups

variable {d₁ d₂ : Dump} {name : String}

theorem fetchBuild_congr (h : d₁.build? name = d₂.build? name) :
    d₁.fetchBuild name = d₂.fetchBuild name := by
  unfold fetchBuild
  rw [h]

theorem findProject?_congr {m : Module} (h : d₁.build? m.build = d₂.build? m.build) :
    d₁.findProject? m = d₂.findProject? m := by
  unfold findProject?
  rw [h]

/-- What the build graph shows of a build: its handle, and the names of the builds that it
includes. -/
def Build.shown (b : Build) : BuildRef × List String := (b.ref, b.includedBuilds)

/-- Two dumps show the same of the build of a name, or neither has one. -/
def ShowAlike (d₁ d₂ : Dump) (name : String) : Prop :=
  (d₁.build? name).map Build.shown = (d₂.build? name).map Build.shown

/-- Dumps with the same build of a name show the same of it. -/
theorem showAlike_of_build? (h : d₁.build? name = d₂.build? name) : d₁.ShowAlike d₂ name :=
  congrArg (Option.map Build.shown) h

/-- If one of two dumps that show the same has no build of the name, the other has none. -/
theorem ShowAlike.build?_eq_none (h : d₁.ShowAlike d₂ name) (hnone : d₁.build? name = none) :
    d₂.build? name = none := by
  unfold ShowAlike at h
  rw [hnone] at h
  exact Option.map_eq_none_iff.1 h.symm

/-- The build of one of two dumps shows the same as that of the other. -/
theorem ShowAlike.exists_build? (h : d₁.ShowAlike d₂ name) {b : Build}
    (hbuild : d₁.build? name = some b) : ∃ b', d₂.build? name = some b' ∧ b.shown = b'.shown := by
  unfold ShowAlike at h
  rw [hbuild] at h
  obtain ⟨b', hbuild', hshown⟩ := Option.map_eq_some_iff.1 h.symm
  exact ⟨b', hbuild', hshown.symm⟩

/-- Builds that show the same are unfolded in the same way, if what they include is. -/
theorem unfold_congr {b₁ b₂ : Build} (h : b₁.shown = b₂.shown) {chain : List String}
    (hincluded : (d₁.includedRefs (b₁.name :: chain) b₁.includedBuilds).value =
      (d₂.includedRefs (b₁.name :: chain) b₁.includedBuilds).value) :
    d₁.unfold chain b₁ = d₂.unfold chain b₂ := by
  obtain ⟨href, hnames⟩ := Prod.mk.inj h
  have hname : b₁.name = b₂.name := congrArg BuildRef.name href
  unfold unfold
  rw [hincluded, href, hnames, hname]

/-- The unfolded includes depend only on what the builds show that are reached from their names. -/
theorem includedRefs_congr {chain names : List String}
    (h : ∀ start ∈ names, ∀ name, d₁.Reaches start name → d₁.ShowAlike d₂ name) :
    (d₁.includedRefs chain names).value = (d₂.includedRefs chain names).value := by
  induction chain, names using includedRefs.induct d₁ with
  | case1 chain => rw [includedRefs_nil, includedRefs_nil]
  | case2 chain name rest hmem ih =>
    rw [List.contains_iff_mem] at hmem
    rw [includedRefs_of_mem d₁ hmem, includedRefs_of_mem d₂ hmem,
      ih (List.forall_mem_of_forall_mem_cons h)]
  | case3 chain name rest hmem hnone ih =>
    have hname := h name List.mem_cons_self name .refl
    rw [includedRefs_of_none d₁ hnone, includedRefs_of_none d₂ (hname.build?_eq_none hnone),
      ih (List.forall_mem_of_forall_mem_cons h)]
  | case4 chain name rest hmem b hbuild ihIncluded ihRest =>
    rw [List.contains_iff_mem] at hmem
    obtain ⟨b', hbuild', hshown⟩ := (h name List.mem_cons_self name .refl).exists_build? hbuild
    -- What is reached from an include of a build is reached from the build.
    have hincluded : ∀ start ∈ b.includedBuilds, ∀ other, d₁.Reaches start other →
        d₁.ShowAlike d₂ other := fun start hstart other hreaches =>
      h name List.mem_cons_self other (.head ⟨b, hbuild, hstart⟩ hreaches)
    rw [← name_of_build? hbuild] at ihIncluded
    rw [includedRefs_of_some d₁ hmem hbuild, includedRefs_of_some d₂ hmem hbuild',
      unfold_congr hshown (ihIncluded hincluded), ihRest (List.forall_mem_of_forall_mem_cons h)]

/-- The build graph depends only on what the builds show that are reached from the root build or
editable. -/
theorem graph_congr {root : Build} (hroot : d₁.build? root.name = some root)
    (hreached : ∀ name, d₁.Reaches root.name name → d₁.ShowAlike d₂ name)
    (heditable : d₁.editableBuilds = d₂.editableBuilds)
    (hbuilds : ∀ name ∈ d₁.editableBuilds, d₁.ShowAlike d₂ name) :
    (d₁.graph root.name).value = (d₂.graph root.name).value := by
  obtain ⟨root', hroot', hshown⟩ := (hreached root.name .refl).exists_build? hroot
  obtain ⟨href, hincludes⟩ := Prod.mk.inj hshown
  have hname : root.name = root'.name := congrArg BuildRef.name href
  have hunfold : (root.includedBuilds.filterMap d₁.build?).map (d₁.unfold [root.name]) =
      (root.includedBuilds.filterMap d₂.build?).map (d₂.unfold [root.name]) := by
    rw [List.map_filterMap, List.map_filterMap]
    refine List.filterMap_congr fun start hstart => ?_
    have hbelow : ∀ name, d₁.Reaches start name → d₁.ShowAlike d₂ name := fun name hreaches =>
      hreached name (.head ⟨root, hroot, hstart⟩ hreaches)
    cases hbuild : d₁.build? start with
    | none =>
      rw [(hbelow start .refl).build?_eq_none hbuild]
      rfl
    | some b =>
      obtain ⟨b', hbuild', hshown'⟩ := (hbelow start .refl).exists_build? hbuild
      have hincluded : ∀ next ∈ b.includedBuilds, ∀ name, d₁.Reaches next name →
          d₁.ShowAlike d₂ name := fun next hnext name hreaches =>
        hbelow name (.head ⟨b, hbuild, hnext⟩ hreaches)
      rw [hbuild']
      exact congrArg some (unfold_congr hshown' (includedRefs_congr hincluded))
  have hrefs : (d₁.editableBuilds.filterMap d₁.build?).map Build.ref =
      (d₁.editableBuilds.filterMap d₂.build?).map Build.ref := by
    rw [List.map_filterMap, List.map_filterMap]
    refine List.filterMap_congr fun name hedit => ?_
    have hfst : ∀ b? : Option Build, b?.map Build.ref = (b?.map Build.shown).map Prod.fst :=
      fun b? => (Option.map_map Prod.fst Build.shown b?).symm
    rw [hfst, hfst, hbuilds name hedit]
  rw [graph_value hroot, rootIncludes_value, hunfold, hrefs, hname, graph_value (hname ▸ hroot'),
    rootIncludes_value, heditable, hincludes]

end Lookups

/-! ## The builds in scope -/

/-- A build of the name is reached from the root build or editable. -/
def Checked.InScope (c : Checked) (name : String) : Prop :=
  c.dump.Reaches c.rootBuild name ∨ name ∈ c.dump.editableBuilds

section Scope

variable (c : Checked)

/-- Every visited handle is of a build in scope. -/
theorem inScope_of_mem_visitedRefs {root : Build} (hroot : c.dump.build? c.rootBuild = some root)
    {toolchain : ToolchainConfig} {config : AggregationConfig} {ref : ProjectRef}
    (href : ref ∈ (c.host toolchain).visitedRefs config root.model) : c.InScope ref.build := by
  rw [visitedRefs_host c hroot] at href
  exact reached_or_editable_of_mem_namesToVisit c hroot (build_mem_of_mem_handlesOf href)

/-- The project graph of a build has modules of that build only. -/
theorem build_of_mem_modules {d : Dump} {name : String} {p : CompositeBuild.Project}
    (hp : d.model? name = some p) : ∀ m ∈ p.modules, m.build = name := by
  obtain ⟨b, hbuild, -, rfl⟩ := model?_eq_some_iff.1 hp
  exact List.forall_mem_map.2 fun _ _ => name_of_build? hbuild

/-- An aggregation of a dump meets the builds in scope only. -/
theorem meetsOnly_inScope (toolchain : ToolchainConfig) (config : AggregationConfig)
    {model : CompositeBuild.Project} (hmodel : (c.host toolchain).rootProject.model = some model) :
    (c.host toolchain).MeetsOnly {name | c.InScope name} config model := by
  obtain ⟨root, hroot, -⟩ := c.exists_root
  obtain rfl : root.model = model := c.model_eq_of_rootProject hroot hmodel
  have hmodules {name : String} {p : CompositeBuild.Project}
      (hp : (c.dump.fetchBuild name).model = some p) : ∀ m ∈ p.modules, m.build = name :=
    build_of_mem_modules ((c.dump.model_fetchBuild name).symm.trans hp)
  constructor
  case refs => exact fun ref href => inScope_of_mem_visitedRefs c hroot href
  case modules =>
    intro p hp m hm
    rcases List.mem_cons.1 hp with rfl | hp
    · rw [hmodules hmodel m hm]
      exact .inl .refl
    · obtain ⟨ref, href, hp⟩ := List.mem_filterMap.1 hp
      rw [hmodules hp m hm]
      exact inScope_of_mem_visitedRefs c hroot href

end Scope

/-! ## Dumps with the same builds in scope -/

/-- Two checked dumps have the same root build, version and editable builds, and the same builds in
scope. -/
structure Checked.SameInScope (c₁ c₂ : Checked) : Prop where
  rootBuild : c₁.rootBuild = c₂.rootBuild
  version : c₁.version = c₂.version
  editableBuilds : c₁.dump.editableBuilds = c₂.dump.editableBuilds
  builds : ∀ name, c₁.InScope name → c₁.dump.build? name = c₂.dump.build? name

/-- Two checked dumps have the same result in every aggregation. -/
def Checked.SameResults (c₁ c₂ : Checked) : Prop :=
  ∀ (toolchain : ToolchainConfig) (config : AggregationConfig),
    ((c₁.host toolchain).aggregate config).value = ((c₂.host toolchain).aggregate config).value

/-- Dumps with the same builds in scope agree on these builds. -/
theorem Checked.SameInScope.agreeOn {c₁ c₂ : Checked} (h : c₁.SameInScope c₂)
    (toolchain : ToolchainConfig) :
    Host.AgreeOn {name | c₁.InScope name} (c₁.host toolchain) (c₂.host toolchain) := by
  obtain ⟨root, hroot, hname⟩ := c₁.exists_root
  rw [← hname] at hroot
  constructor
  case rootProject =>
    show c₁.dump.fetchBuild c₁.rootBuild = c₂.dump.fetchBuild c₂.rootBuild
    rw [← h.rootBuild, fetchBuild_congr (h.builds c₁.rootBuild (.inl .refl))]
  case graph =>
    show (c₁.dump.graph c₁.rootBuild).value = (c₂.dump.graph c₂.rootBuild).value
    rw [← h.rootBuild, ← hname]
    apply graph_congr hroot ?_ h.editableBuilds
    · exact fun name hedit => showAlike_of_build? (h.builds name (.inr hedit))
    · rw [hname]
      exact fun name hreaches => showAlike_of_build? (h.builds name (.inl hreaches))
  case version => exact h.version
  case project => exact fun ref href => fetchBuild_congr (h.builds ref.build href)
  case toolchain =>
    intro m hm
    show (c₁.dump.fetchToolchain toolchain m).value = (c₂.dump.fetchToolchain toolchain m).value
    unfold fetchToolchain
    rw [findProject?_congr (h.builds m.build hm)]
  case sourceSets =>
    intro m hm
    show (c₁.dump.fetchSourceSets m).value = (c₂.dump.fetchSourceSets m).value
    unfold fetchSourceSets
    rw [findProject?_congr (h.builds m.build hm)]

/-- Dumps with the same builds in scope have the same results. -/
theorem Checked.SameInScope.sameResults {c₁ c₂ : Checked} (h : c₁.SameInScope c₂) :
    c₁.SameResults c₂ := fun toolchain config =>
  (h.agreeOn toolchain).aggregate_value_eq fun _ hmodel =>
    meetsOnly_inScope c₁ toolchain config hmodel

/-! ## Listing builds otherwise -/

section Listing

variable {d : Dump} {c c' : Checked} {builds : List Build}

theorem build?_eq_some_iff (hnames : (d.builds.map Build.name).Nodup) {name : String} {b : Build} :
    d.build? name = some b ↔ b ∈ d.builds ∧ b.name = name :=
  find?_eq_some_iff_of_nodup hnames

/-- Builds of different names are found in any order. -/
theorem build?_of_perm (hnames : (d.builds.map Build.name).Nodup) (hperm : builds.Perm d.builds)
    (name : String) : { d with builds }.build? name = d.build? name := by
  have hnames' : (builds.map Build.name).Nodup := (hperm.map Build.name).nodup_iff.2 hnames
  apply Option.ext
  intro b
  rw [build?_eq_some_iff (d := { d with builds }) hnames', build?_eq_some_iff hnames]
  exact and_congr_left' hperm.mem_iff

/-- A build whose name passes a test is found among the builds whose names do. -/
theorem build?_of_filter {keep : String → Bool}
    (hfilter : (builds.filter fun b => keep b.name) = d.builds.filter fun b => keep b.name)
    {name : String} (hname : keep name = true) :
    { d with builds }.build? name = d.build? name := by
  have hfind (bs : List Build) :
      (bs.filter fun b => keep b.name).find? (·.name = name) = bs.find? (·.name = name) := by
    rw [List.find?_filter]
    congr 1
    funext b
    by_cases hb : b.name = name
    · simp [hb, hname]
    · simp [hb]
  show builds.find? _ = d.builds.find? _
  rw [← hfind, hfilter, hfind]

/-- Builds that repeat names from before them are not found. -/
theorem build?_of_repeated {before repeated after : List Build}
    (hbuilds : d.builds = before ++ after)
    (hrepeated : ∀ b ∈ repeated, b.name ∈ before.map Build.name) (name : String) :
    { d with builds := before ++ repeated ++ after }.build? name = d.build? name := by
  show (before ++ repeated ++ after).find? _ = d.builds.find? _
  rw [hbuilds, List.find?_append, List.find?_append, List.find?_append]
  cases hbefore : before.find? (·.name = name) with
  | some b => simp
  | none =>
    have hnone : repeated.find? (·.name = name) = none := by
      rw [List.find?_eq_none] at hbefore ⊢
      intro b hb hname
      obtain ⟨b', hb', hnames⟩ := List.mem_map.1 (hrepeated b hb)
      exact hbefore b' hb' (by simpa [hnames] using hname)
    rw [hnone, Option.or_none]

/-- A dump that lists other builds has the same builds in scope, if it has the same root build and
finds the same builds for the names in scope. -/
theorem sameInScope_of_build? (hdump : c'.dump = { c.dump with builds })
    (hroot : c'.rootBuild = c.rootBuild)
    (hbuilds : ∀ name, c.InScope name → { c.dump with builds }.build? name = c.dump.build? name) :
    c.SameInScope c' := by
  have hversion : HostVersion.parse c.dump.gradleVersion = .ok c'.version := by
    rw [← c'.parsed, hdump]
  constructor
  case rootBuild => exact hroot.symm
  case version => exact Except.ok.inj (c.parsed.symm.trans hversion)
  case editableBuilds => rw [hdump]
  case builds =>
    intro name hname
    rw [hdump, hbuilds name hname]

/-- Reordering builds of different names below a named root build is accepted and changes no
result. -/
theorem sameResults_of_perm (hroot : c.dump.rootBuild.isSome)
    (hnames : (c.dump.builds.map Build.name).Nodup) (hperm : builds.Perm c.dump.builds) :
    ∃ c', { c.dump with builds }.check = .ok c' ∧ c.SameResults c' := by
  have hbuild := build?_of_perm hnames hperm
  have hnamed : { c.dump with builds }.rootBuildName? = some c.rootBuild := by
    have hname := c.named
    obtain ⟨root, hsome⟩ := Option.isSome_iff_exists.1 hroot
    rw [rootBuildName?, hsome, Option.some_or] at hname
    rw [rootBuildName?, hsome, Option.some_or, hname]
  have hknown : ∀ name ∈ c.rootBuild :: referencedBuilds { c.dump with builds },
      ({ c.dump with builds }.build? name).isSome := by
    intro name hname
    have hsub := hperm.flatMap_right Build.includedBuilds
    rw [hbuild]
    apply c.known
    simpa [referencedBuilds, hsub.mem_iff] using hname
  let c' : Checked := ⟨{ c.dump with builds }, c.rootBuild, c.version, hnamed, hknown, c.parsed⟩
  have hscope : c.SameInScope c' := sameInScope_of_build? rfl rfl fun name _ => hbuild name
  exact ⟨c', check_eq_ok_iff.2 rfl, hscope.sameResults⟩

/-- Builds that repeat names from before them change no result, if the dump is still accepted. -/
theorem sameResults_of_repeated {before repeated after : List Build}
    (hbuilds : c.dump.builds = before ++ after)
    (hrepeated : ∀ b ∈ repeated, b.name ∈ before.map Build.name)
    (hdump : c'.dump = { c.dump with builds := before ++ repeated ++ after }) :
    c.SameResults c' := by
  have hroot : c'.rootBuild = c.rootBuild := by
    have hname := c.named
    have hname' := c'.named
    -- The first build is still the first, since a repeated build stands behind another.
    have hhead : (before ++ repeated ++ after).head? = c.dump.builds.head? := by
      cases before with
      | cons => rw [hbuilds]; rfl
      | nil =>
        cases repeated with
        | nil => rw [hbuilds]; rfl
        | cons b rest => exact absurd (hrepeated b List.mem_cons_self) List.not_mem_nil
    rw [hdump, rootBuildName?, hhead] at hname'
    exact Option.some.inj (hname'.symm.trans hname)
  have hbuild := build?_of_repeated hbuilds hrepeated
  exact (sameInScope_of_build? hdump hroot fun name _ => hbuild name).sameResults

end Listing

/-- **Only the builds in scope matter.** Two checked dumps with the same builds in scope have the
same results.  So no result is changed by reordering builds of different names below a named root
build; by adding or removing builds that are not in scope, as long as the root build stays the same;
or by adding builds whose names occur before them. -/
theorem only_builds_in_scope_matter :
    (∀ c₁ c₂ : Checked, c₁.SameInScope c₂ → c₁.SameResults c₂) ∧
    (∀ (c : Checked) (builds : List Build), c.dump.rootBuild.isSome →
      (c.dump.builds.map Build.name).Nodup → builds.Perm c.dump.builds →
        ∃ c', { c.dump with builds }.check = .ok c' ∧ c.SameResults c') ∧
    (∀ (c c' : Checked) (builds : List Build) (keep : String → Bool),
      { c.dump with builds }.check = .ok c' → c'.rootBuild = c.rootBuild →
        (∀ name, c.InScope name → keep name = true) →
        (builds.filter fun b => keep b.name) = (c.dump.builds.filter fun b => keep b.name) →
          c.SameResults c') ∧
    ∀ (c c' : Checked) (before repeated after : List Build), c.dump.builds = before ++ after →
      (∀ b ∈ repeated, b.name ∈ before.map Build.name) →
        { c.dump with builds := before ++ repeated ++ after }.check = .ok c' →
          c.SameResults c' := by
  refine ⟨fun _ _ hscope => hscope.sameResults,
    fun _ _ hroot hnames hperm => sameResults_of_perm hroot hnames hperm, ?_,
    fun _ _ _ _ _ hbuilds hrepeated hcheck =>
      sameResults_of_repeated hbuilds hrepeated (check_eq_ok_iff.1 hcheck)⟩
  intro c c' builds keep hcheck hroot hkeep hfilter
  have hscope : c.SameInScope c' :=
    sameInScope_of_build? (check_eq_ok_iff.1 hcheck) hroot fun name hname =>
      build?_of_filter hfilter (hkeep name hname)
  exact hscope.sameResults

end Dump

/-! ## Builds that include each other, listed otherwise -/

namespace IncludeCycles

open Dump

/-- The dump with a named root build, and without the second build of a name. -/
def distinct : Dump := { dump with rootBuild := some "app", builds := dump.builds.take 5 }

/-- That dump after its check. -/
def distinctChecked : Checked := ⟨distinct, "app", ⟨7, 6, 0⟩, rfl, by decide, rfl⟩

/-- That dump with a second build of a name again, after its check. -/
def repeatedChecked : Checked :=
  ⟨{ distinct with builds := distinct.builds ++ [build "lib" [] []] ++ [] }, "app", ⟨7, 6, 0⟩, rfl,
    by decide, rfl⟩

/-- A build that no other includes. -/
def stray : Dump.Build := build "stray" [":"] ["app"]

/-- The dump with a named root build behind a build that is not in scope, after its check. -/
def strayFirst : Checked :=
  ⟨{ dump with rootBuild := some "app", builds := stray :: dump.builds }, "app", ⟨7, 6, 0⟩, rfl,
    by decide, rfl⟩

/-- The dump with that build behind the others, after its check. -/
def strayLast : Checked :=
  ⟨{ dump with builds := dump.builds ++ [stray] }, "app", ⟨7, 6, 0⟩, rfl, by decide, rfl⟩

/-- The builds in scope are those that are reached. -/
theorem mem_of_inScope {name : String} (h : checked.InScope name) :
    name ∈ ["app", "lib", "tools", "docs", "extra"] := by
  have hsearch : checked.dump.breadthFirst [app.name] app.includedBuilds =
      ["lib", "tools", "docs", "extra"] := by
    cbv
  have hroot : dump.build? checked.rootBuild = some app := rfl
  rcases h with hreached | hedit
  · by_cases hname : name = "app"
    · rw [hname]
      exact List.mem_cons_self
    · have hfound := (mem_breadthFirst_iff checked hroot).2 ⟨hname, hreached⟩
      rw [hsearch] at hfound
      exact List.mem_cons_of_mem _ hfound
  · exact absurd hedit List.not_mem_nil

/-- The build that is not included is not in scope. -/
theorem ne_stray_of_inScope {name : String} (h : checked.InScope name) : name ≠ "stray" := by
  rintro rfl
  exact absurd (mem_of_inScope h) (by decide)

/-- Two dumps have the same builds in scope, though one names its root build and lists one more. -/
theorem sameInScope_strayFirst : checked.SameInScope strayFirst where
  rootBuild := rfl
  version := rfl
  editableBuilds := rfl
  builds := by
    intro name hname
    show dump.builds.find? _ = (stray :: dump.builds).find? _
    rw [List.find?_cons_of_neg]
    simpa [stray, build] using (ne_stray_of_inScope hname).symm

end IncludeCycles

/-- The results of that dump are the same with a build that is not in scope before or behind the
others. Once each name occurs once, a second build of a name does not matter, nor does the order of
the builds. -/
theorem results_of_includeCycles :
    IncludeCycles.checked.SameResults IncludeCycles.strayFirst ∧
      IncludeCycles.checked.SameResults IncludeCycles.strayLast ∧
      IncludeCycles.distinctChecked.SameResults IncludeCycles.repeatedChecked ∧
      ∃ c, { IncludeCycles.distinct with
          builds := IncludeCycles.distinct.builds.reverse }.check = .ok c ∧
        IncludeCycles.distinctChecked.SameResults c := by
  obtain ⟨hscope, hreorder, hunseen, hrepeat⟩ := Dump.only_builds_in_scope_matter
  refine ⟨?_, ?_, ?_, ?_⟩
  · exact hscope _ _ IncludeCycles.sameInScope_strayFirst
  · refine hunseen _ _ (IncludeCycles.dump.builds ++ [IncludeCycles.stray]) (· ≠ "stray") rfl rfl
      (fun name hname => ?_) rfl
    simpa using IncludeCycles.ne_stray_of_inScope hname
  · exact hrepeat _ _ _ [IncludeCycles.build "lib" [] []] [] (List.append_nil _).symm (by decide)
      rfl
  · exact hreorder IncludeCycles.distinctChecked _ rfl (by decide) (List.reverse_perm _)

end CompositeBuild
