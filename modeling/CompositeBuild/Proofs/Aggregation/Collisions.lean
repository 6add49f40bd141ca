/-
# Reporting collisions

A module collides if a module before it has its id.  Reporting collisions changes nothing else in an
aggregation, and it gives one entry for each module that collides, behind the failures of the
modules of its project and before those of later projects (`collisions_are_reported`).
-/
import CompositeBuild.Proofs.Aggregation.Isolation
import CompositeBuild.Proofs.Aggregation.KeySets
import Mathlib.Data.Finset.Card

namespace CompositeBuild

/-! ## Modules that collide -/

/-- The modules that have the id of a module before them, in order, if the modules in `earlier` come
before all of them. -/
def collidingModules (earlier modules : List Module) : List Module :=
  modules.zipIdx.filterMap fun (m, i) =>
    if m.id ∈ (earlier ++ modules.take i).map Module.id then some m else none

/-- The entry for a module that collides. -/
def Module.collision (m : Module) : Diagnostic := ⟨.collision m.id, Merged.collisionMessage⟩

section Modules

variable (earlier : List Module)

/-- The first module collides if a module before it has its id; then it comes before the others. -/
theorem collidingModules_cons (m : Module) (rest : List Module) :
    collidingModules earlier (m :: rest) =
      (if m.id ∈ earlier.map Module.id then [m] else []) ++
        collidingModules (earlier ++ [m]) rest := by
  -- The positions behind the first module are one higher in the whole list than in the rest.
  have hrest : (rest.zipIdx 1).filterMap (fun (x, i) =>
      if x.id ∈ (earlier ++ (m :: rest).take i).map Module.id then some x else none) =
        collidingModules (earlier ++ [m]) rest := by
    rw [List.zipIdx_succ, List.filterMap_map]
    unfold collidingModules
    congr 1
    funext x
    simp
  unfold collidingModules at hrest ⊢
  rw [List.zipIdx_cons, List.filterMap_cons, hrest]
  by_cases hm : m.id ∈ earlier.map Module.id
  · simp only [List.take_zero, List.append_nil, hm, if_true, List.singleton_append]
  · simp only [List.take_zero, List.append_nil, hm, if_false, List.nil_append]

/-- Modules behind others collide with these as well. -/
theorem collidingModules_append (xs ys : List Module) :
    collidingModules earlier (xs ++ ys) =
      collidingModules earlier xs ++ collidingModules (earlier ++ xs) ys := by
  induction xs generalizing earlier with
  | nil => simp [collidingModules]
  | cons m rest ih =>
    rw [List.cons_append, collidingModules_cons, collidingModules_cons, ih, List.append_assoc,
      List.append_assoc, List.singleton_append]

/-- Each module has a new id or collides. -/
theorem length_collidingModules (modules : List Module) :
    (collidingModules earlier modules).length +
        ((earlier ++ modules).map Module.id).toFinset.card =
      modules.length + (earlier.map Module.id).toFinset.card := by
  induction modules generalizing earlier with
  | nil => simp [collidingModules]
  | cons m rest ih =>
    have hsplit : earlier ++ m :: rest = earlier ++ [m] ++ rest := by simp
    have hids : ((earlier ++ [m]).map Module.id).toFinset =
        insert m.id (earlier.map Module.id).toFinset := by
      rw [List.map_append, List.toFinset_append, Finset.union_comm]
      rfl
    have hrest := ih (earlier ++ [m])
    rw [hids] at hrest
    rw [collidingModules_cons, List.length_append, List.length_cons, hsplit]
    by_cases hm : m.id ∈ earlier.map Module.id
    · rw [Finset.insert_eq_self.2 (List.mem_toFinset.2 hm)] at hrest
      rw [if_pos hm, List.length_singleton]
      omega
    · rw [Finset.card_insert_of_notMem (by rwa [List.mem_toFinset])] at hrest
      rw [if_neg hm, List.length_nil]
      omega

end Modules

/-! ## Reports -/

namespace Merged

/-- Without the detection of collisions none is reported. -/
theorem collisions_false (seen ids : List ModuleId) : collisions false seen ids = [] := by
  induction ids generalizing seen with
  | nil => rfl
  | cons id rest ih => rw [collisions, ih]; rfl

/-- With the detection of collisions one is reported for each module that collides. -/
theorem collisions_true {seen : List ModuleId} {earlier : List Module}
    (hseen : ∀ id, id ∈ seen ↔ id ∈ earlier.map Module.id) (modules : List Module) :
    collisions true seen (modules.map Module.id) =
      (collidingModules earlier modules).map Module.collision := by
  induction modules generalizing seen earlier with
  | nil => rfl
  | cons m rest ih =>
    have hseen' (id : ModuleId) : id ∈ m.id :: seen ↔ id ∈ (earlier ++ [m]).map Module.id := by
      rw [List.mem_cons, hseen, List.map_append, List.mem_append, List.map_singleton,
        List.mem_singleton, or_comm]
    rw [List.map_cons, collisions, ih hseen', collidingModules_cons, List.map_append]
    congr 1
    by_cases hm : m.id ∈ earlier.map Module.id
    · rw [if_pos hm, Bool.true_and, if_pos (List.contains_iff_mem.2 ((hseen _).2 hm))]
      rfl
    · have hcontains : ¬ seen.contains m.id = true := fun h =>
        hm ((hseen _).1 (List.contains_iff_mem.1 h))
      rw [if_neg hm, Bool.true_and, if_neg hcontains]
      rfl

end Merged

namespace Host

variable (host : Host)

/-- What is told about the modules of projects if collisions are reported: for each project the
failures of its modules, and then the collisions of its modules with those before them.  The modules
in `earlier` come before all projects. -/
def moduleReports (earlier : List Module) (projects : List Project) : List Diagnostic :=
  projects.zipIdx.flatMap fun (p, i) =>
    p.modules.flatMap host.facetDiagnostics ++
      (collidingModules (earlier ++ (projects.take i).flatMap Project.modules) p.modules).map
        Module.collision

theorem moduleReports_cons (earlier : List Module) (p : Project) (rest : List Project) :
    host.moduleReports earlier (p :: rest) =
      p.modules.flatMap host.facetDiagnostics ++
        (collidingModules earlier p.modules).map Module.collision ++
        host.moduleReports (earlier ++ p.modules) rest := by
  unfold moduleReports
  rw [List.zipIdx_cons, List.flatMap_cons, List.zipIdx_succ, List.flatMap_map]
  simp

/-- Merging the facets of projects reports the failures and the collisions of their modules. -/
theorem report_true {seen : List ModuleId} {earlier : List Module}
    (hseen : ∀ id, id ∈ seen ↔ id ∈ earlier.map Module.id) (projects : List Project) :
    Merged.report true seen (projects.map host.facetsOf) = host.moduleReports earlier projects := by
  induction projects generalizing seen earlier with
  | nil => rfl
  | cons p rest ih =>
    have hids : (host.facetsOf p).sourceSets.map (·.1) = p.modules.map Module.id :=
      host.map_fst_sourceSetEntries p.modules
    have hseen' (id : ModuleId) : id ∈ p.modules.map Module.id ++ seen ↔
        id ∈ (earlier ++ p.modules).map Module.id := by
      rw [List.mem_append, hseen, List.map_append, List.mem_append, or_comm]
    rw [List.map_cons, Merged.report, hids, Merged.collisions_true hseen, ih hseen',
      moduleReports_cons]
    rfl

/-- Without the detection of collisions only the failures are reported. -/
theorem report_false (seen : List ModuleId) (projects : List Project) :
    Merged.report false seen (projects.map host.facetsOf) =
      (projects.flatMap Project.modules).flatMap host.facetDiagnostics := by
  induction projects generalizing seen with
  | nil => rfl
  | cons p rest ih =>
    rw [List.map_cons, Merged.report, Merged.collisions_false, List.append_nil, ih,
      List.flatMap_cons, List.flatMap_append]
    rfl

/-! ## Entries for collisions -/

/-- The failures in an answer about a unit that is no collision are no collisions. -/
theorem filter_isCollision_diagnostics {α : Type} (f : Fetched α) {scope : Scope}
    (hscope : scope.isCollision = false) :
    (f.diagnostics scope).filter (·.scope.isCollision) = [] := by
  rw [List.filter_eq_nil_iff]
  intro x hx
  obtain ⟨failure, -, rfl⟩ := List.mem_map.1 hx
  simp [hscope]

/-- The failures in the answers about modules are no collisions. -/
theorem filter_isCollision_facetDiagnostics (modules : List Module) :
    (modules.flatMap host.facetDiagnostics).filter (·.scope.isCollision) = [] := by
  rw [List.filter_flatMap, List.flatMap_eq_nil_iff]
  intro m _
  unfold facetDiagnostics
  rw [List.filter_append, filter_isCollision_diagnostics _ rfl,
    filter_isCollision_diagnostics _ rfl]
  rfl

/-- The failures in the answers about handles are no collisions. -/
theorem filter_isCollision_refDiagnostics (refs : List ProjectRef) :
    (refs.flatMap host.refDiagnostics).filter (·.scope.isCollision) = [] := by
  rw [List.filter_flatMap, List.flatMap_eq_nil_iff]
  intro ref _
  exact filter_isCollision_diagnostics _ rfl

/-- The entry for a module that collides is a collision. -/
theorem filter_isCollision_map_collision (modules : List Module) :
    (modules.map Module.collision).filter (·.scope.isCollision) = modules.map Module.collision := by
  rw [List.filter_eq_self]
  intro x hx
  obtain ⟨m, -, rfl⟩ := List.mem_map.1 hx
  rfl

/-- The collisions among what is told about projects are those of all their modules. -/
theorem filter_isCollision_moduleReports (earlier : List Module) (projects : List Project) :
    (host.moduleReports earlier projects).filter (·.scope.isCollision) =
      (collidingModules earlier (projects.flatMap Project.modules)).map Module.collision := by
  induction projects generalizing earlier with
  | nil => rfl
  | cons p rest ih =>
    rw [moduleReports_cons, List.filter_append, List.filter_append,
      filter_isCollision_facetDiagnostics, List.nil_append, filter_isCollision_map_collision, ih,
      List.flatMap_cons, collidingModules_append, List.map_append]

section Outcome

variable {host} {config : AggregationConfig} {root : Project}

/-- The diagnostics of an outcome before those about modules: the failures of the root project and
of the handles that are visited. -/
def projectDiagnostics (host : Host) (config : AggregationConfig) (root : Project) :
    List Diagnostic :=
  host.rootProject.diagnostics .rootProject ++
    (host.visitedRefs config root).flatMap host.refDiagnostics

/-- The diagnostics of an outcome in which collisions are reported. -/
theorem diagnostics_outcome_of_detect (hdetect : config.detectCollisions = true) :
    (host.outcome config root).diagnostics =
      host.projectDiagnostics config root ++
        host.moduleReports [] (host.outcome config root).snapshot.projects := by
  show host.projectDiagnostics config root ++ Merged.report config.detectCollisions [] _ = _
  have hnone (id : ModuleId) : id ∈ ([] : List ModuleId) ↔ id ∈ ([] : List Module).map Module.id :=
    Iff.rfl
  rw [hdetect, host.report_true hnone]
  rfl

/-- The diagnostics of an outcome in which collisions are not reported. -/
theorem diagnostics_outcome_of_not_detect (hdetect : config.detectCollisions = false) :
    (host.outcome config root).diagnostics =
      host.projectDiagnostics config root ++
        (host.outcome config root).snapshot.modules.flatMap host.facetDiagnostics := by
  show host.projectDiagnostics config root ++ Merged.report config.detectCollisions [] _ = _
  rw [hdetect, host.report_false]
  rfl

/-- The failures of projects are no collisions. -/
theorem filter_isCollision_projectDiagnostics :
    (host.projectDiagnostics config root).filter (·.scope.isCollision) = [] := by
  unfold projectDiagnostics
  rw [List.filter_append, filter_isCollision_diagnostics _ rfl, filter_isCollision_refDiagnostics]
  rfl

/-- The number of entries of source sets is that of the ids of the modules. -/
theorem size_sourceSets_outcome :
    (host.outcome config root).snapshot.sourceSets.size =
      ((host.outcome config root).snapshot.modules.map Module.id).toFinset.card := by
  have hkeys : (host.outcome config root).snapshot.sourceSets.keys.toFinset =
      ((host.outcome config root).snapshot.modules.map Module.id).toFinset := by
    ext id
    rw [List.mem_toFinset, List.mem_toFinset, host.mem_sourceSets_keys_outcome, List.mem_map]
  have hnodup : (host.outcome config root).snapshot.sourceSets.keys.Nodup := SortedMap.nodup_keys _
  rw [← hkeys, List.toFinset_card_of_nodup hnodup]
  exact (List.length_map _).symm

end Outcome

end Host

/-! ## What is reported -/

/-- Two aggregations differ at most in the collisions that they report. -/
structure Aggregation.AlikeButCollisions (a₁ a₂ : Aggregation) : Prop where
  snapshot : a₁.snapshot = a₂.snapshot
  diagnostics : a₁.diagnostics.filter (fun d => !d.scope.isCollision) =
    a₂.diagnostics.filter (fun d => !d.scope.isCollision)

/-- An aggregation reports one collision for each module that has the id of a module before it, in
order, behind the failures of its project and before those of later projects. -/
structure Aggregation.ReportsCollisions (host : Host) (config : AggregationConfig)
    (a : Aggregation) : Prop where
  entries : a.diagnostics.filter (·.scope.isCollision) =
    (collidingModules [] a.snapshot.modules).map Module.collision
  count : (a.diagnostics.filter (·.scope.isCollision)).length + a.snapshot.sourceSets.size =
    a.snapshot.modules.length
  places : ∃ root, host.rootProject.model = some root ∧
    a.diagnostics = host.projectDiagnostics config root ++ host.moduleReports [] a.snapshot.projects

/-- With the detection of collisions an outcome reports those of its modules. -/
theorem Host.reportsCollisions_outcome {host : Host} {config : AggregationConfig} {root : Project}
    (hroot : host.rootProject.model = some root) (hdetect : config.detectCollisions = true) :
    (host.outcome config root).ReportsCollisions host config := by
  have hplaces : (host.outcome config root).diagnostics =
      host.projectDiagnostics config root ++
        host.moduleReports [] (host.outcome config root).snapshot.projects :=
    diagnostics_outcome_of_detect hdetect
  have hentries : (host.outcome config root).diagnostics.filter (·.scope.isCollision) =
      (collidingModules [] (host.outcome config root).snapshot.modules).map Module.collision := by
    rw [hplaces, List.filter_append, filter_isCollision_projectDiagnostics, List.nil_append,
      filter_isCollision_moduleReports]
    rfl
  have hcount := length_collidingModules [] (host.outcome config root).snapshot.modules
  refine ⟨hentries, ?_, root, hroot, hplaces⟩
  rw [hentries, List.length_map, size_sourceSets_outcome]
  simpa using hcount

/-- **Collisions are reported exactly, and nothing depends on it.** Two aggregations of which one
detects collisions and the other does not end alike: with the same error, or with the same snapshot
and the same diagnostics but for the collisions.  With the detection there is one entry for each
module that has the id of a module before it; without it there is none. -/
theorem collisions_are_reported (host : Host) (config : AggregationConfig) :
    (∀ detect, EndAlike Aggregation.AlikeButCollisions (host.aggregate config).value
      (host.aggregate { config with detectCollisions := detect }).value) ∧
    ∀ a, (host.aggregate config).value = .ok a →
      (config.detectCollisions = true → a.ReportsCollisions host config) ∧
      (config.detectCollisions = false → ∀ x ∈ a.diagnostics, x.scope.isCollision = false) := by
  refine ⟨fun detect => ?_, fun a ha => ?_⟩
  · refine Host.endAlike_of_outcome rfl fun root _ => ⟨rfl, ?_⟩
    show (host.projectDiagnostics config root ++
        Merged.report config.detectCollisions [] _).filter _ =
      (host.projectDiagnostics config root ++ Merged.report detect [] _).filter _
    rw [List.filter_append, List.filter_append, Merged.filter_report fun _ => rfl,
      Merged.filter_report fun _ => rfl]
    rfl
  · obtain ⟨root, hroot, rfl⟩ := host.aggregate_eq_ok_iff.1 ha
    refine ⟨Host.reportsCollisions_outcome hroot, fun hdetect => ?_⟩
    have hnone : (host.outcome config root).diagnostics.filter (·.scope.isCollision) = [] := by
      rw [Host.diagnostics_outcome_of_not_detect hdetect, List.filter_append,
        Host.filter_isCollision_projectDiagnostics, Host.filter_isCollision_facetDiagnostics]
      rfl
    simpa using List.filter_eq_nil_iff.1 hnone

/-! ## Modules that collide within a project and across projects -/

namespace SharedId

/-- The module of another build, which has the shared id as well. -/
def third : Module := ⟨"util", "util", ["tools"], ":", "tools", none⟩

/-- The project of the other build, which has one more module. -/
def tools : Project :=
  ⟨"util", "tools", none, none, [third, ⟨"cli", "util", [], ":cli", "tools", none⟩]⟩

/-- The host, with the other build, and without source sets. -/
def wider : Host :=
  { host with
    project := fun _ => .ofOption (some tools)
    sourceSets := fun _ => pure (.failed ["no container"])
    graph := pure ⟨[], [⟨"tools", none, [⟨"tools", "util", ":", none⟩], []⟩]⟩ }

/-- The aggregation of that host. -/
def widerAggregation : Aggregation := wider.outcome .default project

end SharedId

/-- Three modules with one id, two of them in one project: the second and the third collide. -/
theorem collisions_of_sharedId :
    (SharedId.wider.aggregate .default).value = .ok SharedId.widerAggregation ∧
      SharedId.widerAggregation.diagnostics =
        [⟨.sourceSets SharedId.id, "no container"⟩, ⟨.sourceSets SharedId.id, "no container"⟩,
         SharedId.second.collision,
         ⟨.sourceSets SharedId.id, "no container"⟩, ⟨.sourceSets ⟨"cli"⟩, "no container"⟩,
         SharedId.third.collision] ∧
      2 + SharedId.widerAggregation.snapshot.sourceSets.size = 4 := by
  have hok : (SharedId.wider.aggregate .default).value = .ok SharedId.widerAggregation :=
    SharedId.wider.aggregate_value .default
  have hreports := ((collisions_are_reported SharedId.wider .default).2 _ hok).1 rfl
  obtain ⟨root, hroot, hplaces⟩ := hreports.places
  obtain rfl : SharedId.project = root := Option.some.inj hroot
  have hdiagnostics : SharedId.widerAggregation.diagnostics =
      [⟨.sourceSets SharedId.id, "no container"⟩, ⟨.sourceSets SharedId.id, "no container"⟩,
       SharedId.second.collision,
       ⟨.sourceSets SharedId.id, "no container"⟩, ⟨.sourceSets ⟨"cli"⟩, "no container"⟩,
       SharedId.third.collision] := by
    rw [hplaces]
    rfl
  have hcount := hreports.count
  rw [hdiagnostics] at hcount
  exact ⟨hok, hdiagnostics, hcount⟩

end CompositeBuild
