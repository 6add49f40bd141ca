/-
# Fetching facets in any order

An aggregation may fetch the facets of its projects at the same time.  Then the projects are
finished in any order, each leaves its facets in a slot of its own, and the slots are merged when
all of them are filled.  Whatever the order, the result is that of fetching one project after the
other, and that of one pass over all modules which writes the facets of each into the maps of the
snapshot at once (`schedules_agree`).
-/
import CompositeBuild.Proofs.Aggregation.FailureStream
import Mathlib.Data.List.FinRange
import Mathlib.Data.List.Nodup
import Mathlib.Logic.Relation

namespace CompositeBuild

/-! ## Slots -/

/-- A slot for each project, which is empty until the facets of the project have been fetched. -/
abbrev Slots (projects : List Project) := Fin projects.length → Option ProjectFacets

namespace Slots

variable {projects : List Project}

/-- No facets have been fetched. -/
def empty (projects : List Project) : Slots projects := fun _ => none

/-- The facets of all projects have been fetched. -/
def IsFull (slots : Slots projects) : Prop := ∀ i, (slots i).isSome

/-- The facets that have been fetched, in the order of the projects. -/
def contents (slots : Slots projects) : List ProjectFacets :=
  (List.finRange projects.length).filterMap slots

end Slots

namespace Host

variable (host : Host)

/-- One step: the facets of a project whose slot is empty are fetched and put into it. -/
inductive FetchStep {projects : List Project} (slots : Slots projects) : Slots projects → Prop
  | fetch (i : Fin projects.length) : slots i = none →
      FetchStep slots (Function.update slots i (some (host.fetchFacets projects[i]).value))

/-- Some slots are reached from others by steps in some order. -/
def FetchSteps {projects : List Project} : Slots projects → Slots projects → Prop :=
  Relation.ReflTransGen host.FetchStep

/-! ## Which slots are reached -/

section Reached

variable {projects : List Project}

/-- The slots after the facets of some projects have been fetched. -/
def slotsOf (finished : List (Fin projects.length)) : Slots projects := fun i =>
  if i ∈ finished then some (host.fetchFacets projects[i]).value else none

theorem slotsOf_nil : host.slotsOf [] = Slots.empty projects := by
  funext i
  simp [slotsOf, Slots.empty]

/-- Filling one more slot. -/
theorem slotsOf_concat (finished : List (Fin projects.length)) (i : Fin projects.length) :
    host.slotsOf (finished ++ [i]) =
      Function.update (host.slotsOf finished) i (some (host.fetchFacets projects[i]).value) := by
  funext j
  by_cases hj : j = i
  · subst hj
    simp [slotsOf]
  · rw [Function.update_of_ne hj]
    simp [slotsOf, hj]

/-- From the slots of some projects those of more projects are reached, if no project is fetched
twice. -/
theorem fetchSteps_slotsOf_append {finished more : List (Fin projects.length)}
    (hnodup : (finished ++ more).Nodup) :
    host.FetchSteps (host.slotsOf finished) (host.slotsOf (finished ++ more)) := by
  induction more generalizing finished with
  | nil =>
    rw [List.append_nil]
    exact .refl
  | cons i rest ih =>
    have hsplit : finished ++ i :: rest = finished ++ [i] ++ rest := by simp
    have hi : i ∉ finished :=
      fun hi => (List.nodup_append.1 hnodup).2.2 i hi i List.mem_cons_self rfl
    have hempty : host.slotsOf finished i = none := if_neg hi
    have hstep : host.FetchStep (host.slotsOf finished) (host.slotsOf (finished ++ [i])) := by
      rw [slotsOf_concat]
      exact .fetch i hempty
    rw [hsplit] at hnodup ⊢
    exact .head hstep (ih hnodup)

/-- **Every order is possible, and nothing else.** The slots that are reached are those of some
projects that were finished one after the other, each of them once. -/
theorem fetchSteps_iff {slots : Slots projects} :
    host.FetchSteps (Slots.empty projects) slots ↔
      ∃ finished : List (Fin projects.length), finished.Nodup ∧ slots = host.slotsOf finished := by
  constructor
  · intro hsteps
    induction hsteps with
    | refl => exact ⟨[], List.nodup_nil, host.slotsOf_nil.symm⟩
    | tail _ hstep ih =>
      obtain ⟨finished, hnodup, rfl⟩ := ih
      obtain ⟨i, hempty⟩ := hstep
      have hnew : i ∉ finished := fun hi => by simp [slotsOf, hi] at hempty
      refine ⟨finished ++ [i], ?_, (host.slotsOf_concat finished i).symm⟩
      exact hnodup.append (List.nodup_singleton i) (by simpa using hnew)
  · rintro ⟨finished, hnodup, rfl⟩
    rw [← slotsOf_nil, ← List.nil_append finished]
    exact host.fetchSteps_slotsOf_append hnodup

/-- The slots of some projects are full if all projects are among them. -/
theorem isFull_slotsOf {finished : List (Fin projects.length)} (h : ∀ i, i ∈ finished) :
    (host.slotsOf finished).IsFull := by
  intro i
  simp [slotsOf, h i]

/-- Whatever was fetched first, the rest can be fetched. -/
theorem exists_isFull {slots : Slots projects}
    (hsteps : host.FetchSteps (Slots.empty projects) slots) :
    ∃ full, host.FetchSteps slots full ∧ full.IsFull := by
  obtain ⟨finished, hnodup, rfl⟩ := host.fetchSteps_iff.1 hsteps
  let missing := (List.finRange projects.length).filter fun i => i ∉ finished
  have hmissing : (finished ++ missing).Nodup := by
    refine hnodup.append ((List.nodup_finRange _).filter _) ?_
    intro i hi hi'
    simp [missing, hi] at hi'
  refine ⟨_, host.fetchSteps_slotsOf_append hmissing, host.isFull_slotsOf fun i => ?_⟩
  by_cases hi : i ∈ finished
  · exact List.mem_append_left _ hi
  · exact List.mem_append_right _ (by simpa [missing] using hi)

/-- Full slots hold the facets of the projects in order, whatever the order in which they were
fetched. -/
theorem contents_of_isFull {slots : Slots projects}
    (hsteps : host.FetchSteps (Slots.empty projects) slots) (hfull : slots.IsFull) :
    slots.contents = projects.map host.facetsOf := by
  obtain ⟨finished, -, rfl⟩ := host.fetchSteps_iff.1 hsteps
  have hslot : host.slotsOf finished = fun i => some (host.facetsOf projects[i]) := by
    funext i
    have hi : i ∈ finished := by
      by_contra hnot
      have hsome := hfull i
      rw [slotsOf, if_neg hnot] at hsome
      exact absurd hsome (by simp)
    rw [slotsOf, if_pos hi, fetchFacets_value]
  unfold Slots.contents
  rw [hslot, List.filterMap_eq_map', ← List.ofFn_eq_map]
  exact List.ofFn_getElem_eq_map projects host.facetsOf

end Reached

/-! ## Merging full slots -/

/-- The aggregation with the given root project and the facets that were fetched for its
projects. -/
def mergeFetched (config : AggregationConfig) (root : Project) (facets : List ProjectFacets) :
    Aggregation :=
  let (included, failures) := (host.fetchIncluded (config.strategyFor host) root).value
  let merged := (Merged.addProjects config.detectCollisions
    ⟨.empty, .empty, host.rootProject.diagnostics .rootProject ++ failures⟩ facets).value
  ⟨⟨root :: included, merged.toolchains, merged.sourceSets⟩, merged.diagnostics⟩

/-- What an aggregation may end with if it fetches the facets of its projects at the same time:
nothing is fetched without a root project; otherwise the slots are filled step by step, and merged
when they are full. -/
inductive MayEnd (config : AggregationConfig) : Except RootUnavailable Aggregation → Prop
  | unavailable : host.rootProject.model = none →
      MayEnd config (.error ⟨host.rootProject.failures.map Failure.display⟩)
  | merged {root : Project}
      {slots : Slots (root :: (host.fetchIncluded (config.strategyFor host) root).value.1)} :
      host.rootProject.model = some root → host.FetchSteps (Slots.empty _) slots → slots.IsFull →
      MayEnd config (.ok (host.mergeFetched config root slots.contents))

/-- The projects whose facets are fetched are the composed projects. -/
theorem cons_fetchIncluded (config : AggregationConfig) (root : Project) :
    root :: (host.fetchIncluded (config.strategyFor host) root).value.1 =
      host.composedProjects config root := by
  rw [fetchIncluded_value]
  rfl

/-- Merging the facets of the composed projects gives the outcome. -/
theorem mergeFetched_eq (config : AggregationConfig) (root : Project) :
    host.mergeFetched config root ((host.composedProjects config root).map host.facetsOf) =
      host.outcome config root := by
  have hempty : Merged.Holds ⟨.empty, .empty, host.rootProject.diagnostics .rootProject ++
      (host.visitedRefs config root).flatMap host.refDiagnostics⟩ [] := fun id => Iff.rfl
  unfold mergeFetched
  simp only [fetchIncluded_value, Merged.addProjects_value config.detectCollisions hempty,
    flatMap_toolchains, flatMap_sourceSets]
  rfl

/-- Whatever the order in which facets are fetched, an aggregation ends in the same way. -/
theorem mayEnd_iff {config : AggregationConfig} {result : Except RootUnavailable Aggregation} :
    host.MayEnd config result ↔ result = (host.aggregate config).value := by
  rw [aggregate_value]
  constructor
  · intro hend
    cases hend with
    | unavailable hroot => rw [hroot]
    | merged hroot hsteps hfull =>
      rw [hroot, host.contents_of_isFull hsteps hfull, cons_fetchIncluded, mergeFetched_eq]
  · rintro rfl
    cases hroot : host.rootProject.model with
    | none => exact .unavailable hroot
    | some root =>
      have hexists :
          ∃ slots : Slots (root :: (host.fetchIncluded (config.strategyFor host) root).value.1),
            host.FetchSteps (Slots.empty _) slots ∧ slots.IsFull := host.exists_isFull .refl
      obtain ⟨slots, hsteps, hfull⟩ := hexists
      have hend : host.MayEnd config (.ok (host.mergeFetched config root slots.contents)) :=
        .merged hroot hsteps hfull
      rwa [host.contents_of_isFull hsteps hfull, cons_fetchIncluded, mergeFetched_eq] at hend

end Host

/-! ## One pass over all modules -/

/-- Where a pass over the modules of a project stands: what has been put together, and the
collisions that are told at the end of the project. -/
structure Pass where
  merged : Merged
  held : List Diagnostic

namespace Host

variable (host : Host)

/-- Passes over a module: its facets are written into the maps, and its failures are told. -/
def passModule (detectCollisions : Bool) (pass : Pass) (m : Module) : Pass where
  merged :=
    { toolchains :=
        match host.toolchainOf m with
        | some settings => pass.merged.toolchains.insert m.id settings
        | none => pass.merged.toolchains
      sourceSets := pass.merged.sourceSets.insert m.id (host.sourceSetsOf m)
      diagnostics := pass.merged.diagnostics ++ host.facetDiagnostics m }
  held :=
    if detectCollisions && pass.merged.sourceSets.contains m.id then
      pass.held ++ [⟨.collision m.id, Merged.collisionMessage⟩]
    else pass.held

/-- Passes over the modules of a project. -/
def passProject (detectCollisions : Bool) (merged : Merged) (p : Project) : Merged :=
  let pass := p.modules.foldl (host.passModule detectCollisions) ⟨merged, []⟩
  { pass.merged with diagnostics := pass.merged.diagnostics ++ pass.held }

/-- The aggregation that one pass over all modules gives. -/
def onePass (config : AggregationConfig) : Except RootUnavailable Aggregation :=
  match host.rootProject.model with
  | none => .error ⟨host.rootProject.failures.map Failure.display⟩
  | some root =>
    let (included, failures) := (host.fetchIncluded (config.strategyFor host) root).value
    let merged := (root :: included).foldl (host.passProject config.detectCollisions)
      ⟨.empty, .empty, host.rootProject.diagnostics .rootProject ++ failures⟩
    .ok ⟨⟨root :: included, merged.toolchains, merged.sourceSets⟩, merged.diagnostics⟩

section Steps

variable (detect : Bool) {seen : List ModuleId}

/-- Passing over a module sets its entries, tells its failures and holds its collision. -/
theorem passModule_eq {pass : Pass} (hseen : pass.merged.Holds seen) (m : Module) :
    host.passModule detect pass m =
      ⟨⟨pass.merged.toolchains.insertAll (host.toolchainEntries [m]),
          pass.merged.sourceSets.insertAll (host.sourceSetEntries [m]),
          pass.merged.diagnostics ++ host.facetDiagnostics m⟩,
        pass.held ++ Merged.collisions detect seen [m.id]⟩ := by
  have hheld : (if detect && pass.merged.sourceSets.contains m.id then
        pass.held ++ [⟨.collision m.id, Merged.collisionMessage⟩]
      else pass.held) = pass.held ++ Merged.collisions detect seen [m.id] := by
    unfold Merged.collisions
    rw [hseen.contains_eq, Merged.collisions, List.append_nil]
    split
    · rfl
    · rw [List.append_nil]
  unfold passModule
  rw [hheld]
  cases hsettings : host.toolchainOf m with
  | none => simp [toolchainEntries, sourceSetEntries, SortedMap.insertAll, hsettings]
  | some settings => simp [toolchainEntries, sourceSetEntries, SortedMap.insertAll, hsettings]

/-- Passing over the modules of a project sets their entries in order, tells their failures and
holds their collisions. -/
theorem foldl_passModule {pass : Pass} (hseen : pass.merged.Holds seen) (modules : List Module) :
    modules.foldl (host.passModule detect) pass =
      ⟨⟨pass.merged.toolchains.insertAll (host.toolchainEntries modules),
          pass.merged.sourceSets.insertAll (host.sourceSetEntries modules),
          pass.merged.diagnostics ++ modules.flatMap host.facetDiagnostics⟩,
        pass.held ++ Merged.collisions detect seen (modules.map Module.id)⟩ := by
  induction modules generalizing pass seen with
  | nil => simp [toolchainEntries, sourceSetEntries, SortedMap.insertAll, Merged.collisions]
  | cons m rest ih =>
    have htoolchains : host.toolchainEntries (m :: rest) =
        host.toolchainEntries [m] ++ host.toolchainEntries rest :=
      List.filterMap_append (l := [m])
    have hsourceSets : host.sourceSetEntries (m :: rest) =
        host.sourceSetEntries [m] ++ host.sourceSetEntries rest := rfl
    have hseen' : (host.passModule detect pass m).merged.Holds (m.id :: seen) := by
      intro id
      show id ∈ (pass.merged.sourceSets.insert m.id _).keys ↔ _
      rw [SortedMap.mem_keys_insert, List.mem_cons, hseen id]
    rw [List.foldl_cons, ih hseen', host.passModule_eq detect hseen, htoolchains, hsourceSets,
      SortedMap.insertAll_append, SortedMap.insertAll_append]
    simp [Merged.collisions, List.append_assoc]

/-- Passing over a project is adding its facets. -/
theorem passProject_eq {merged : Merged} (hseen : merged.Holds seen) (p : Project) :
    host.passProject detect merged p = (merged.addProject detect (host.facetsOf p)).value := by
  have hids : (host.facetsOf p).sourceSets.map (·.1) = p.modules.map Module.id :=
    host.map_fst_sourceSetEntries p.modules
  have hstart : (⟨merged, []⟩ : Pass).merged.Holds seen := hseen
  unfold passProject
  rw [Merged.addProject_value detect hseen, host.foldl_passModule detect hstart, hids]
  rfl

/-- Passing over projects is adding their facets one after the other. -/
theorem foldl_passProject {merged : Merged} (hseen : merged.Holds seen) (projects : List Project) :
    projects.foldl (host.passProject detect) merged =
      (Merged.addProjects detect merged (projects.map host.facetsOf)).value := by
  induction projects generalizing merged seen with
  | nil => rfl
  | cons p rest ih =>
    have hseen' := Merged.holds_addProject detect hseen (host.facetsOf p)
    rw [List.foldl_cons, host.passProject_eq detect hseen, ih hseen']
    rfl

end Steps

/-- One pass over all modules gives what an aggregation gives. -/
theorem onePass_eq (config : AggregationConfig) :
    host.onePass config = (host.aggregate config).value := by
  rw [aggregate_value]
  unfold onePass
  cases host.rootProject.model with
  | none => rfl
  | some root =>
    have hempty : Merged.Holds ⟨.empty, .empty, host.rootProject.diagnostics .rootProject ++
        (host.fetchIncluded (config.strategyFor host) root).value.2⟩ [] := fun id => Iff.rfl
    have hpass := host.foldl_passProject config.detectCollisions hempty
      (root :: (host.fetchIncluded (config.strategyFor host) root).value.1)
    have hmerge := host.mergeFetched_eq config root
    rw [← cons_fetchIncluded] at hmerge
    unfold mergeFetched at hmerge
    dsimp only at hmerge ⊢
    rw [hpass, hmerge]

end Host

/-- **Every schedule gives the same result.** When the facets of projects are fetched at the same
time, the projects are finished in any order, and whatever was finished first, all of them can be.
Each way to the end gives the result of fetching one project after the other, which is that of one
pass over all modules, and also what an aggregation gives that fetches them at the same time. -/
theorem schedules_agree (host : Host) (config : AggregationConfig) :
    (∀ (projects : List Project) (slots : Slots projects),
      host.FetchSteps (Slots.empty projects) slots ↔
        ∃ finished : List (Fin projects.length), finished.Nodup ∧ slots = host.slotsOf finished) ∧
    (∀ (projects : List Project) (slots : Slots projects),
      host.FetchSteps (Slots.empty projects) slots →
        ∃ full, host.FetchSteps slots full ∧ full.IsFull) ∧
    (∀ result, host.MayEnd config result ↔
      result = (host.aggregate { config with parallel := false }).value) ∧
    (host.aggregate { config with parallel := true }).value =
      (host.aggregate { config with parallel := false }).value ∧
    host.onePass config = (host.aggregate { config with parallel := false }).value := by
  have hparallel (parallel : Bool) : (host.aggregate { config with parallel }).value =
      (host.aggregate config).value := by
    rw [Host.aggregate_value, Host.aggregate_value]
    rfl
  refine ⟨fun _ _ => host.fetchSteps_iff, fun _ _ => host.exists_isFull, fun result => ?_, ?_, ?_⟩
  · rw [hparallel false, host.mayEnd_iff]
  · rw [hparallel true, hparallel false]
  · rw [hparallel false, host.onePass_eq]

/-- The second of two projects is finished first.  The facets of the first can still be fetched, and
the result does not depend on it, though modules of the first have one id. -/
theorem schedules_of_partlyBroken :
    (∃ slots full : Slots [SharedId.project, PartlyBroken.toolsProject],
      PartlyBroken.host.FetchSteps (Slots.empty _) slots ∧ slots 0 = none ∧ (slots 1).isSome ∧
        PartlyBroken.host.FetchSteps slots full ∧ full.IsFull) ∧
      PartlyBroken.host.MayEnd .default (.ok PartlyBroken.aggregation) ∧
      (PartlyBroken.host.aggregate { AggregationConfig.default with parallel := true }).value =
        .ok PartlyBroken.aggregation ∧
      PartlyBroken.host.onePass .default = .ok PartlyBroken.aggregation := by
  obtain ⟨hreached, hcompleted, hend, hparallel, hpass⟩ :=
    schedules_agree PartlyBroken.host .default
  have hsteps : PartlyBroken.host.FetchSteps
      (Slots.empty [SharedId.project, PartlyBroken.toolsProject]) (PartlyBroken.host.slotsOf [1]) :=
    (hreached _ _).2 ⟨[1], List.nodup_singleton _, rfl⟩
  have hsequential : (PartlyBroken.host.aggregate
      { AggregationConfig.default with parallel := false }).value = .ok PartlyBroken.aggregation :=
    PartlyBroken.aggregate_host
  obtain ⟨full, hrest, hfull⟩ := hcompleted _ _ hsteps
  exact ⟨⟨_, full, hsteps, rfl, rfl, hrest, hfull⟩, (hend _).2 hsequential.symm,
    hparallel.trans hsequential, hpass.trans hsequential⟩

end CompositeBuild
