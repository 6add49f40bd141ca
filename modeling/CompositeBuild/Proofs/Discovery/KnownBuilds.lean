/-
# Names that are known

A dump is checked once, and its names are looked up later: while the includes are unfolded into a
graph, when a handle of the graph is fetched, and when the project of a module is located.  None of
these lookups fails in a checked dump, so nothing is left out for want of a build or a project
(`queries_meet_known_names`).
-/
import CompositeBuild.Proofs.Hierarchy.Handles

namespace CompositeBuild

/-! ## Builds at any depth -/

/-- The build is one of some builds, or one that they include at any depth. -/
inductive BuildRef.OccursIn (r : BuildRef) : List BuildRef → Prop
  | listed {builds : List BuildRef} : r ∈ builds → OccursIn r builds
  | included {builds : List BuildRef} {b : BuildRef} :
      b ∈ builds → OccursIn r b.included → OccursIn r builds

/-- What passes from a build to the builds that it includes holds at any depth, if it holds of the
builds that are listed. -/
theorem BuildRef.OccursIn.of_forall {P : BuildRef → Prop} (hP : ∀ b, P b → ∀ c ∈ b.included, P c)
    {r : BuildRef} {builds : List BuildRef} (h : r.OccursIn builds) (hbuilds : ∀ b ∈ builds, P b) :
    P r := by
  induction h with
  | listed hr => exact hbuilds _ hr
  | included hb _ ih => exact ih (hP _ (hbuilds _ hb))

namespace Dump

variable (d : Dump)

/-! ## Lookups that may fail -/

/-- Looks up the build of a name, which is the error if there is none. -/
def lookUp (name : String) : Except String Build :=
  match d.build? name with
  | none => .error name
  | some b => .ok b

set_option linter.unusedVariables false in
/-- The builds of the given names, each with the builds that it includes in turn, where no name may
be without a build. -/
def lookUpIncluded (chain : List String) : List String → Except String (List BuildRef)
  | [] => .ok []
  | name :: rest =>
    if off : chain.contains name then lookUpIncluded chain rest
    else
      match found : d.build? name with
      | none => .error name
      | some b => do
        let included ← lookUpIncluded (name :: chain) b.includedBuilds
        return { b.ref with included } :: (← lookUpIncluded chain rest)
  termination_by names => ((d.namesOff chain).length, names.length)
  decreasing_by
    · exact Prod.Lex.right _ (by simp)
    · exact Prod.Lex.left _ _ (length_namesOff_lt off found)
    · exact Prod.Lex.right _ (by simp)

/-- The build graph, where no name may be without a build. -/
def lookUpGraph (rootName : String) : Except String BuildGraph := do
  let root ← d.lookUp rootName
  let includedBuilds ← root.includedBuilds.mapM fun name => do
    let b ← d.lookUp name
    return { b.ref with included := ← d.lookUpIncluded [b.name, root.name] b.includedBuilds }
  let editableBuilds ← d.editableBuilds.mapM fun name => return (← d.lookUp name).ref
  return ⟨includedBuilds, editableBuilds⟩

variable {d}

/-- A build that is found is what its lookup gives. -/
theorem lookUp_eq_ok {name : String} {b : Build} (hbuild : d.build? name = some b) :
    d.lookUp name = .ok b := by
  unfold lookUp
  rw [hbuild]

/-- Looking up names that are all known gives what is made of their builds. -/
theorem mapM_lookUp {β : Type} {f : Build → Except String β} {g : Build → β}
    (hf : ∀ b ∈ d.builds, f b = .ok (g b)) {names : List String}
    (hknown : ∀ name ∈ names, (d.build? name).isSome) :
    names.mapM (fun name => d.lookUp name >>= f) = .ok ((names.filterMap d.build?).map g) := by
  induction names with
  | nil => rfl
  | cons name rest ih =>
    obtain ⟨hname, hrest⟩ := List.forall_mem_cons.1 hknown
    obtain ⟨b, hbuild⟩ := Option.isSome_iff_exists.1 hname
    rw [List.mapM_cons, lookUp_eq_ok hbuild, ih hrest, List.filterMap_cons_some hbuild,
      List.map_cons]
    show (f b >>= _) = _
    rw [hf b (List.mem_of_find?_eq_some hbuild)]
    rfl

/-- The includes of the builds of a dump are known. -/
def IncludesKnown (d : Dump) : Prop :=
  ∀ b ∈ d.builds, ∀ name ∈ b.includedBuilds, (d.build? name).isSome

/-- No lookup fails while known names are unfolded, if the includes of all builds are known. -/
theorem lookUpIncluded_eq_ok (hincludes : d.IncludesKnown) {chain names : List String}
    (hknown : ∀ name ∈ names, (d.build? name).isSome) :
    d.lookUpIncluded chain names = .ok (d.includedRefs chain names).value := by
  fun_induction lookUpIncluded d chain names with
  | case1 chain => rw [includedRefs_nil]
  | case2 chain name rest hmem ih =>
    rw [List.contains_iff_mem] at hmem
    rw [includedRefs_of_mem d hmem, ih (List.forall_mem_of_forall_mem_cons hknown)]
  | case3 chain name rest hmem hnone =>
    have hname := hknown name List.mem_cons_self
    simp [hnone] at hname
  | case4 chain name rest hmem b hbuild ihIncluded ihRest =>
    rw [List.contains_iff_mem] at hmem
    have hb := hincludes b (List.mem_of_find?_eq_some hbuild)
    rw [includedRefs_of_some d hmem hbuild, ihIncluded hb,
      ihRest (List.forall_mem_of_forall_mem_cons hknown), unfold, name_of_build? hbuild]
    rfl

/-- No lookup fails while the graph of a checked dump is built. -/
theorem lookUpGraph_eq_ok (c : Checked) :
    c.dump.lookUpGraph c.rootBuild = .ok (c.dump.graph c.rootBuild).value := by
  obtain ⟨root, hroot, hname⟩ := c.exists_root
  have hincludes : c.dump.IncludesKnown := fun b hb => c.known_included hb
  have hunfold : ∀ b ∈ c.dump.builds,
      (c.dump.lookUpIncluded [b.name, root.name] b.includedBuilds >>= fun included =>
        pure { b.ref with included }) = .ok (c.dump.unfold [root.name] b) := by
    intro b hb
    rw [lookUpIncluded_eq_ok hincludes (hincludes b hb)]
    rfl
  have hincluded := mapM_lookUp hunfold (hincludes root (List.mem_of_find?_eq_some hroot))
  have heditable := mapM_lookUp (f := fun b => pure b.ref) (fun _ _ => rfl)
    c.known_editable
  rw [← hname] at hroot ⊢
  rw [graph_value hroot, rootIncludes_value]
  unfold lookUpGraph
  rw [lookUp_eq_ok hroot]
  show ((root.includedBuilds.mapM _ : Except String (List BuildRef)) >>= _) = _
  rw [hincluded]
  show ((c.dump.editableBuilds.mapM _ : Except String (List BuildRef)) >>= _) = _
  rw [heditable]
  rfl

/-- A name without a build is where the lookups end, while the graph leaves it out. -/
example :
    let dump : Dump := ⟨"8.5", none, [⟨"app", none, none, [], ["gone"], []⟩], []⟩
    dump.lookUpGraph "app" = .error "gone" ∧ (dump.graph "app").value.includedBuilds = [] := by
  exact ⟨rfl, rfl⟩

/-! ## Names in the graph -/

/-- Every build of the graph at any depth is unfolded from the dump. -/
theorem isUnfolded_of_occursIn (c : Checked) {r : BuildRef}
    (h : r.OccursIn (c.dump.graph c.rootBuild).value.includedBuilds ∨
      r.OccursIn (c.dump.graph c.rootBuild).value.editableBuilds) : c.dump.IsUnfolded r := by
  obtain ⟨root, hroot, hname⟩ := c.exists_root
  rw [← hname] at hroot h
  obtain ⟨hincluded, heditable⟩ := isUnfolded_of_mem_graph hroot
  rcases h with hr | hr
  · exact hr.of_forall (fun b hb => hb.included_isUnfolded) hincluded
  · exact hr.of_forall (fun b hb => hb.included_isUnfolded) heditable

/-- The names in an unfolded build are known: its own, and that in the handle of its project. -/
theorem IsUnfolded.isSome_build? {r : BuildRef} (h : d.IsUnfolded r) :
    (d.build? r.name).isSome ∧ ∀ ref ∈ r.projects, (d.build? ref.build).isSome := by
  obtain ⟨b, hbuild, halone⟩ := Option.map_eq_some_iff.1 h.alone
  have hprojects : r.projects = [b.rootRef] := (congrArg BuildRef.projects halone).symm
  have hknown : (d.build? r.name).isSome := Option.isSome_iff_exists.2 ⟨b, hbuild⟩
  refine ⟨hknown, ?_⟩
  rw [hprojects, List.forall_mem_singleton, b.rootRef_build, name_of_build? hbuild]
  exact hknown

/-! ## Answers about builds -/

/-- The answer for a build that is known is what was captured of it. -/
theorem fetchBuild_of_build? {name : String} {b : Build} (hbuild : d.build? name = some b) :
    d.fetchBuild name = ⟨d.model? name, b.failures.map Failure.ofMessage⟩ := by
  unfold fetchBuild model?
  rw [hbuild]
  rfl

/-- Every module of a model leads to a project of the dump. -/
theorem isSome_findProject?_of_model {name : String} {p : CompositeBuild.Project}
    (hp : (d.fetchBuild name).model = some p) : ∀ m ∈ p.modules, (d.findProject? m).isSome := by
  obtain ⟨b, hbuild, -, rfl⟩ := model?_eq_some_iff.1 ((d.model_fetchBuild name).symm.trans hp)
  refine List.forall_mem_map.2 fun project hproject => ?_
  obtain ⟨first, hfirst⟩ := Build.exists_firstAt? hproject
  rw [findProject?_moduleOf hbuild, hfirst]
  rfl

/-- The handles of builds are of builds that are known. -/
theorem exists_build_of_mem_handlesOf {names : List String} {ref : ProjectRef}
    (h : ref ∈ d.handlesOf names) : ∃ b, d.build? ref.build = some b := by
  obtain ⟨b, hb, rfl⟩ := List.mem_map.1 h
  obtain ⟨name, -, hbuild⟩ := List.mem_filterMap.1 hb
  refine ⟨b, ?_⟩
  rw [b.rootRef_build, name_of_build? hbuild, hbuild]

/-! ## Answers about facets -/

/-- The answer for a facet has no model exactly if failures were recorded for it or nothing could be
read. -/
theorem model_facet_eq_none_iff {α : Type} {recorded : List String} {extract : Logged (Option α)} :
    (facet recorded extract).value.model = none ↔ recorded ≠ [] ∨ extract.value = none := by
  unfold facet
  cases recorded with
  | nil => simp [Fetched.ofOption]
  | cons message rest => simp [Fetched.failed]

/-- The failures in the answer for a facet are those that were recorded for it. -/
theorem failures_facet {α : Type} (recorded : List String) (extract : Logged (Option α)) :
    (facet recorded extract).value.failures = recorded.map Failure.ofMessage := by
  unfold facet
  cases recorded with
  | nil => rfl
  | cons message rest => rfl

/-- There are no toolchain settings exactly if there is no compile task. -/
theorem extract_toolchain_eq_none_iff {config : ToolchainConfig} {p : Project} :
    (ToolchainSettings.extract config p).value = none ↔ p.tasks.get? config.compileTask = none := by
  unfold ToolchainSettings.extract
  cases p.tasks.get? config.compileTask with
  | none => simp
  | some task => simp

/-- There are no source sets exactly if there is no container for them. -/
theorem extract_sourceSets_eq_none_iff {p : Project} :
    (SourceSet.extract p).value = none ↔ p.sourceSets = none := by
  unfold SourceSet.extract
  cases p.sourceSets with
  | none => simp
  | some definitions => simp

/-- A module leads to a project of the dump, and a facet of the module has no model exactly if
failures of the facet were captured, or if the project has nothing from which the facet could be
read. -/
structure LeadsTo (d : Dump) (host : Host) (config : ToolchainConfig) (m : Module) (p : Project) :
    Prop where
  project : d.findProject? m = some p
  answers : AnsweredFrom host config m p
  toolchain : (host.toolchain m).value.model = none ↔
    p.failures.toolchain ≠ [] ∨ p.tasks.get? config.compileTask = none
  sourceSets : (host.sourceSets m).value.model = none ↔
    p.failures.sourceSets ≠ [] ∨ p.sourceSets = none

/-- A module for which a project is found leads to it. -/
theorem leadsTo_of_findProject? (c : Checked) (toolchain : ToolchainConfig) {m : Module}
    {p : Project} (hp : c.dump.findProject? m = some p) :
    c.dump.LeadsTo (c.host toolchain) toolchain m p := by
  have hanswers : AnsweredFrom (c.host toolchain) toolchain m p := answeredFrom_of_findProject? hp
  refine ⟨hp, hanswers, ?_, ?_⟩
  · rw [hanswers.toolchain, model_facet_eq_none_iff, extract_toolchain_eq_none_iff]
  · rw [hanswers.sourceSets, model_facet_eq_none_iff, extract_sourceSets_eq_none_iff]

/-! ## What an aggregation meets -/

/-- The message of a diagnostic was captured with the build or the project that it is about; only
the message about a repeated id is not. -/
def Captured (d : Dump) (rootBuild : String) (modules : List Module) (x : Diagnostic) : Prop :=
  match x.scope with
  | .rootProject => ∃ b, d.build? rootBuild = some b ∧ x.message ∈ b.failures
  | .project build _ => ∃ b, d.build? build = some b ∧ x.message ∈ b.failures
  | .toolchain id => ∃ m ∈ modules, m.id = id ∧
      ∃ p, d.findProject? m = some p ∧ x.message ∈ p.failures.toolchain
  | .sourceSets id => ∃ m ∈ modules, m.id = id ∧
      ∃ p, d.findProject? m = some p ∧ x.message ∈ p.failures.sourceSets
  | .collision _ => x.message = Merged.collisionMessage

/-- Everything that an aggregation of a dump meets is known: if there is no root project, the
failures are those captured of the root build; otherwise every diagnostic was captured, and every
module leads to a project. -/
def MeetsKnown (d : Dump) (host : Host) (rootBuild : String) (config : ToolchainConfig) :
    Except RootUnavailable Aggregation → Prop
  | .error e => ∃ b, d.build? rootBuild = some b ∧ e.failures = b.failures
  | .ok a => (∀ x ∈ a.diagnostics, d.Captured rootBuild a.snapshot.modules x) ∧
      ∀ m ∈ a.snapshot.modules, ∃ p, d.LeadsTo host config m p

theorem map_display_ofMessage (messages : List String) :
    (messages.map Failure.ofMessage).map Failure.display = messages := by
  rw [List.map_map]
  exact List.map_id messages

/-- The diagnostics of failures that have only a message hold these messages. -/
theorem forall_mem_diagnostics_ofMessage {α : Type} {f : Fetched α} {messages : List String}
    (hf : f.failures = messages.map Failure.ofMessage) {P : Diagnostic → Prop} {scope : Scope}
    (hP : ∀ message ∈ messages, P ⟨scope, message⟩) : ∀ x ∈ f.diagnostics scope, P x := by
  unfold Fetched.diagnostics
  rw [hf, List.map_map]
  exact List.forall_mem_map.2 hP

/-- The answer for the root project is what was captured of the root build. -/
theorem rootProject_host (c : Checked) {root : Build}
    (hroot : c.dump.build? c.rootBuild = some root) (toolchain : ToolchainConfig) :
    (c.host toolchain).rootProject =
      ⟨c.dump.model? c.rootBuild, root.failures.map Failure.ofMessage⟩ :=
  fetchBuild_of_build? hroot

section Aggregated

variable (c : Checked) (toolchain : ToolchainConfig) (config : AggregationConfig)

/-- The models that a dump gives have modules that lead to projects of the dump. -/
theorem isSome_findProject?_of_host {p : CompositeBuild.Project}
    (hp : (c.host toolchain).rootProject.model = some p ∨
      ∃ ref, ((c.host toolchain).project ref).model = some p) :
    ∀ m ∈ p.modules, (c.dump.findProject? m).isSome := by
  rcases hp with hroot | ⟨ref, href⟩
  · exact isSome_findProject?_of_model hroot
  · exact isSome_findProject?_of_model href

/-- The modules of an aggregation lead to projects of the dump. -/
theorem exists_leadsTo {model : CompositeBuild.Project}
    (hmodel : (c.host toolchain).rootProject.model = some model) :
    ∀ m ∈ ((c.host toolchain).outcome config model).snapshot.modules,
      ∃ p, c.dump.LeadsTo (c.host toolchain) toolchain m p := by
  intro m hm
  obtain ⟨p, hp, hm⟩ := List.mem_flatMap.1 hm
  have hgiven : (c.host toolchain).rootProject.model = some p ∨
      ∃ ref, ((c.host toolchain).project ref).model = some p := by
    rcases List.mem_cons.1 hp with rfl | hp
    · exact .inl hmodel
    · obtain ⟨ref, -, href⟩ := List.mem_filterMap.1 hp
      exact .inr ⟨ref, href⟩
  obtain ⟨project, hproject⟩ :=
    Option.isSome_iff_exists.1 (isSome_findProject?_of_host c toolchain hgiven m hm)
  exact ⟨project, leadsTo_of_findProject? c toolchain hproject⟩

/-- The diagnostics of an aggregation were captured. -/
theorem captured_of_mem_diagnostics {model : CompositeBuild.Project}
    (hmodel : (c.host toolchain).rootProject.model = some model) :
    ∀ x ∈ ((c.host toolchain).outcome config model).diagnostics,
      c.dump.Captured c.rootBuild ((c.host toolchain).outcome config model).snapshot.modules x := by
  obtain ⟨root, hroot, -⟩ := c.exists_root
  obtain rfl : root.model = model := c.model_eq_of_rootProject hroot hmodel
  apply Host.forall_mem_diagnostics
  case hcollision => exact fun id => rfl
  case hroot =>
    rw [rootProject_host c hroot]
    exact forall_mem_diagnostics_ofMessage rfl fun message hmessage => ⟨root, hroot, hmessage⟩
  case hrefs =>
    intro ref href
    rw [visitedRefs_host c hroot] at href
    obtain ⟨b, hbuild⟩ := exists_build_of_mem_handlesOf href
    show ∀ x ∈ (c.dump.fetchBuild ref.build).diagnostics _, _
    rw [fetchBuild_of_build? hbuild]
    exact forall_mem_diagnostics_ofMessage rfl fun message hmessage => ⟨b, hbuild, hmessage⟩
  case hmodules =>
    intro m hm
    obtain ⟨p, hp⟩ := exists_leadsTo c toolchain config hmodel m hm
    refine List.forall_mem_append.2 ⟨?_, ?_⟩
    · rw [hp.answers.toolchain]
      exact forall_mem_diagnostics_ofMessage (failures_facet _ _) fun message hmessage =>
        ⟨m, hm, rfl, p, hp.project, hmessage⟩
    · rw [hp.answers.sourceSets]
      exact forall_mem_diagnostics_ofMessage (failures_facet _ _) fun message hmessage =>
        ⟨m, hm, rfl, p, hp.project, hmessage⟩

/-- Every aggregation of a dump meets only what is known. -/
theorem meetsKnown_aggregate : c.dump.MeetsKnown (c.host toolchain) c.rootBuild toolchain
    ((c.host toolchain).aggregate config).value := by
  rw [Host.aggregate_value]
  cases hmodel : (c.host toolchain).rootProject.model with
  | none =>
    obtain ⟨root, hroot, -⟩ := c.exists_root
    refine ⟨root, hroot, ?_⟩
    rw [rootProject_host c hroot]
    exact map_display_ofMessage root.failures
  | some model =>
    exact ⟨captured_of_mem_diagnostics c toolchain config hmodel,
      exists_leadsTo c toolchain config hmodel⟩

end Aggregated

/-- **Queries meet known names.**  The root build of a checked dump is known, and so are the builds
in the graph at any depth and the builds of their handles; no lookup fails on the way to the graph.
Every module of a model that the dump gives leads to a project of the dump.  So everything that an
aggregation meets is known: the failures of builds are those captured of builds of these names, and
a facet of a module is missing only for what was captured of the project that the module leads
to. -/
theorem queries_meet_known_names (c : Checked) :
    (c.dump.build? c.rootBuild).isSome ∧
      (∀ r : BuildRef, r.OccursIn (c.dump.graph c.rootBuild).value.includedBuilds ∨
          r.OccursIn (c.dump.graph c.rootBuild).value.editableBuilds →
        (c.dump.build? r.name).isSome ∧ ∀ ref ∈ r.projects, (c.dump.build? ref.build).isSome) ∧
      c.dump.lookUpGraph c.rootBuild = .ok (c.dump.graph c.rootBuild).value ∧
      ∀ toolchain : ToolchainConfig,
        (∀ p : CompositeBuild.Project, ((c.host toolchain).rootProject.model = some p ∨
            ∃ ref, ((c.host toolchain).project ref).model = some p) →
          ∀ m ∈ p.modules, (c.dump.findProject? m).isSome) ∧
        ∀ config : AggregationConfig, c.dump.MeetsKnown (c.host toolchain) c.rootBuild toolchain
          ((c.host toolchain).aggregate config).value := by
  refine ⟨?_, ?_, lookUpGraph_eq_ok c, fun toolchain => ⟨?_, ?_⟩⟩
  · exact c.known c.rootBuild List.mem_cons_self
  · exact fun r hr => (isUnfolded_of_occursIn c hr).isSome_build?
  · exact fun p hp => isSome_findProject?_of_host c toolchain hp
  · exact meetsKnown_aggregate c toolchain

end Dump

/-! ## Builds that include each other -/

namespace IncludeCycles

/-- A build that the root build includes. -/
def lib : Dump.Build := build "lib" [":"] ["docs", "lib"]

/-- A build without projects, which that one includes. -/
def docs : Dump.Build := build "docs" [] ["extra", "tools"]

/-- A build three includes below the root. -/
def extra : Dump.Build := build "extra" [":", ":a"] ["docs"]

/-- That build is in the graph. -/
theorem extra_occursIn : (dump.unfold ["docs", "lib", "app"] extra).OccursIn
    (dump.graph "app").value.includedBuilds := by
  have happ : dump.build? app.name = some app := rfl
  have hlib : dump.unfold ["app"] lib ∈ (dump.graph app.name).value.includedBuilds := by
    rw [Dump.graph_value happ, Dump.rootIncludes_value]
    exact List.mem_cons_self
  have hdocs : dump.unfold ["lib", "app"] docs ∈ (dump.unfold ["app"] lib).included := by
    show _ ∈ (dump.includedRefs ["lib", "app"] ["docs", "lib"]).value
    rw [Dump.includedRefs_of_some dump (by decide) rfl]
    exact List.mem_cons_self
  have hextra : dump.unfold ["docs", "lib", "app"] extra ∈
      (dump.unfold ["lib", "app"] docs).included := by
    show _ ∈ (dump.includedRefs ["docs", "lib", "app"] ["extra", "tools"]).value
    rw [Dump.includedRefs_of_some dump (by decide) rfl]
    exact List.mem_cons_self
  exact .included hlib (.included hdocs (.listed hextra))

end IncludeCycles

/-- The names in the graph of builds that include each other are known, also that of the build three
includes below the root, and a module without toolchain settings leads to a project that has
none. -/
theorem known_names_of_includeCycles :
    IncludeCycles.dump.check = .ok IncludeCycles.checked ∧
      IncludeCycles.dump.lookUpGraph "app" = .ok (IncludeCycles.dump.graph "app").value ∧
      (∃ r : BuildRef, r.OccursIn (IncludeCycles.dump.graph "app").value.includedBuilds ∧
        r.name = "extra" ∧ (IncludeCycles.dump.build? r.name).isSome) ∧
      ∃ a, ((IncludeCycles.checked.host .default).aggregate .default).value = .ok a ∧
        ∀ m ∈ a.snapshot.modules, ∃ p, IncludeCycles.dump.findProject? m = some p ∧
          (((IncludeCycles.checked.host .default).toolchain m).value.model = none ↔
            p.failures.toolchain ≠ [] ∨ p.tasks.get? "compileKotlin" = none) := by
  obtain ⟨-, hnames, hgraph, hhost⟩ := Dump.queries_meet_known_names IncludeCycles.checked
  have hextra := IncludeCycles.extra_occursIn
  refine ⟨rfl, hgraph, ⟨_, hextra, rfl, (hnames _ (.inl hextra)).1⟩, ?_⟩
  obtain ⟨-, haggregate⟩ := hhost .default
  have hmeets := haggregate .default
  obtain ⟨a, ha⟩ : ∃ a, ((IncludeCycles.checked.host .default).aggregate .default).value = .ok a :=
    ⟨_, (Host.aggregate_eq_ok_iff _).2 ⟨IncludeCycles.app.model, rfl, rfl⟩⟩
  rw [ha] at hmeets
  refine ⟨a, ha, fun m hm => ?_⟩
  obtain ⟨p, hp⟩ := hmeets.2 m hm
  exact ⟨p, hp.project, hp.toolchain⟩

end CompositeBuild
