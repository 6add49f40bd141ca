/-
# What comes of a dump file

The content of a dump file is text or not, the text holds a dump or not, and the dump is checked
before it is aggregated.  The first of these steps that fails decides what comes of the file, in an
order that is written out case by case (`outcomeCases`); after them only the root build can fail an
aggregation, and only by having no projects (`outcome_of_dumpFile`).
-/
import CompositeBuild.Files.Tree
import CompositeBuild.Proofs.Discovery.KnownBuilds
import CompositeBuild.Proofs.Dump.RoundTrip
import CompositeBuild.Workspace

namespace CompositeBuild

/-! ## Cases in order -/

/-- A case of a decision about a result: when it applies, and what then holds of the result. -/
structure Case (ρ : Type) where
  applies : Prop
  gives : ρ → Prop

namespace Case

variable {ρ : Type}

/-- The case that there is something for which `P` holds, with what it gives for the result. -/
def when {ι : Type} (P : ι → Prop) (gives : ι → ρ → Prop) : Case ρ where
  applies := ∃ i, P i
  gives r := ∀ i, P i → gives i r

/-- The case that always applies. -/
def otherwise (gives : ρ → Prop) : Case ρ := ⟨True, gives⟩

/-- The first of some cases that applies decides about a result. -/
inductive Decided (r : ρ) : List (Case ρ) → Prop
  | here {c : Case ρ} {rest : List (Case ρ)} : c.applies → c.gives r → Decided r (c :: rest)
  | later {c : Case ρ} {rest : List (Case ρ)} : ¬ c.applies → Decided r rest → Decided r (c :: rest)

namespace Decided

variable {r : ρ} {rest : List (Case ρ)}

/-- A result is decided if the first case is right about it, and the other cases decide about it
when the first does not apply. -/
theorem step {ι : Type} {P : ι → Prop} {gives : ι → ρ → Prop} (hgives : ∀ i, P i → gives i r)
    (hrest : (∀ i, ¬ P i) → Decided r rest) : Decided r (when P gives :: rest) := by
  by_cases h : ∃ i, P i
  · exact .here h hgives
  · exact .later h (hrest (not_exists.1 h))

/-- A case that applies decides. -/
theorem gives_of_applies {c : Case ρ} (h : Decided r (c :: rest)) (hc : c.applies) : c.gives r := by
  cases h with
  | here _ hgives => exact hgives
  | later hnot _ => exact absurd hc hnot

/-- A case that does not apply leaves the decision to the others. -/
theorem of_not_applies {c : Case ρ} (h : Decided r (c :: rest)) (hc : ¬ c.applies) :
    Decided r rest := by
  cases h with
  | here happlies _ => exact absurd happlies hc
  | later _ hrest => exact hrest

end Decided

end Case

/-! ## Text in a file -/

/-- A content is the text whose code it is. -/
theorem textOf_eq_ok_iff {content : ByteArray} {text : String} :
    textOf content = .ok text ↔ text.toUTF8 = content := by
  unfold textOf String.fromUTF8?
  constructor
  · intro h
    split at h
    · rename_i text' htext
      split at htext
      · obtain rfl := Option.some.inj htext
        obtain rfl := Except.ok.inj h
        rfl
      · exact nomatch htext
    · exact nomatch h
  · rintro rfl
    rw [String.toUTF8_eq_toByteArray, dif_pos text.isValidUTF8]
    rfl

/-- A content that is the code of no text is invalid. -/
theorem textOf_eq_error {content : ByteArray} (h : ∀ text : String, text.toUTF8 ≠ content) :
    textOf content = .error .invalidData := by
  cases htext : textOf content with
  | ok text => exact absurd (textOf_eq_ok_iff.1 htext) (h text)
  | error e =>
    unfold textOf at htext
    split at htext
    · exact nomatch htext
    · exact htext.symm

namespace Dump

/-! ## Loading -/

/-- The content of a file is the text of a dump. -/
def IsHeldBy (d : Dump) (content : ByteArray) : Prop :=
  ∃ text : String, text.toUTF8 = content ∧ Dump.decoder.fromText text = .ok d

/-- The text of a file that holds a dump is decoded as this dump. -/
theorem IsHeldBy.fromText_eq {d : Dump} {content : ByteArray} (h : d.IsHeldBy content)
    {text : String} (htext : text.toUTF8 = content) : Dump.decoder.fromText text = .ok d := by
  obtain ⟨text', htext', hd⟩ := h
  obtain rfl : text' = text := String.toByteArray_inj.1 (htext'.trans htext.symm)
  exact hd

theorem IsHeldBy.unique {d₁ d₂ : Dump} {content : ByteArray} (h₁ : d₁.IsHeldBy content)
    (h₂ : d₂.IsHeldBy content) : d₁ = d₂ := by
  obtain ⟨text, htext, hd₁⟩ := h₁
  exact Except.ok.inj (hd₁.symm.trans (h₂.fromText_eq htext))

/-- What is not text is not loaded. -/
theorem load_of_not_text {content : ByteArray} (h : ∀ text : String, text.toUTF8 ≠ content) :
    load content = .error (.file .invalidData) := by
  unfold load
  rw [textOf_eq_error h]
  rfl

/-- Text that is no dump is not loaded. -/
theorem load_of_not_dump {text : String} {e : Json.DecodeError}
    (h : Dump.decoder.fromText text = .error e) : load text.toUTF8 = .error (.json e) := by
  unfold load
  rw [textOf_eq_ok_iff.2 rfl]
  show ((Dump.decoder.fromText text).mapError RunError.json >>= _) = _
  rw [h]
  rfl

/-- A dump in a file is loaded if it passes its check. -/
theorem load_of_isHeldBy {d : Dump} {content : ByteArray} (h : d.IsHeldBy content) :
    load content = d.check.mapError .host := by
  obtain ⟨text, rfl, hdump⟩ := h
  unfold load
  rw [textOf_eq_ok_iff.2 rfl]
  show ((Dump.decoder.fromText text).mapError RunError.json >>= _) = _
  rw [hdump]
  rfl

/-! ## Checking -/

variable {d : Dump}

/-- There is no name of a root build exactly if none is given and there are no builds. -/
theorem rootBuildName?_eq_none_iff :
    d.rootBuildName? = none ↔ d.builds = [] ∧ d.rootBuild = none := by
  unfold rootBuildName?
  rw [Option.or_eq_none_iff, Option.map_eq_none_iff, List.head?_eq_none_iff, and_comm]

/-- The name is the first of a build that the dump refers to and does not have: the builds that are
included come first, build by build, and then the editable builds. -/
def IsFirstUnknown (d : Dump) (name : String) : Prop :=
  ∃ before after,
    d.builds.flatMap Build.includedBuilds ++ d.editableBuilds = before ++ name :: after ∧
    (∀ known ∈ before, (d.build? known).isSome) ∧ d.build? name = none

/-- The first unknown name is what a search for an unknown name finds. -/
theorem isFirstUnknown_iff {name : String} : d.IsFirstUnknown name ↔
    d.referencedBuilds.find? (fun name => (d.build? name).isNone) = some name := by
  rw [List.find?_eq_some_iff_append]
  unfold IsFirstUnknown referencedBuilds
  simp only [Option.isNone_iff_eq_none, Bool.not_eq_true', Option.isNone_eq_false_iff]
  constructor
  · rintro ⟨before, after, hnames, hbefore, hname⟩
    exact ⟨hname, before, after, hnames, hbefore⟩
  · rintro ⟨hname, before, after, hnames, hbefore⟩
    exact ⟨before, after, hnames, hbefore, hname⟩

/-- There is a first unknown name, or all names are known. -/
theorem known_of_forall_not_isFirstUnknown (h : ∀ name, ¬ d.IsFirstUnknown name) :
    ∀ name ∈ d.referencedBuilds, (d.build? name).isSome := by
  have hnone : d.referencedBuilds.find? (fun name => (d.build? name).isNone) = none := by
    rw [Option.eq_none_iff_forall_ne_some]
    exact fun name hname => h name (isFirstUnknown_iff.2 hname)
  exact find?_isNone_eq_none_iff.1 hnone

/-- A dump without builds and without a root build fails its check first. -/
theorem check_of_noBuilds (hbuilds : d.builds = []) (hroot : d.rootBuild = none) :
    d.check = .error .noBuilds := by
  have hnone : d.rootBuildName? = none := rootBuildName?_eq_none_iff.2 ⟨hbuilds, hroot⟩
  unfold check
  split
  case h_1 => rfl
  case h_2 rootBuild hsome => exact nomatch hnone.symm.trans hsome

section Root

variable {rootBuild : String} (hname : d.rootBuildName? = some rootBuild)
include hname

/-- A dump fails its check with the first unknown name among the root build and those that it refers
to. -/
theorem check_of_find? {name : String}
    (hunknown : (rootBuild :: d.referencedBuilds).find? (fun name => (d.build? name).isNone) =
      some name) :
    d.check = .error (.unknownBuild name) := by
  unfold check
  split
  case h_1 hnone => exact nomatch hname.symm.trans hnone
  case h_2 rootBuild' hsome =>
    obtain rfl : rootBuild = rootBuild' := Option.some.inj (hname.symm.trans hsome)
    split
    case h_1 name' hfirst => rw [Option.some.inj (hfirst.symm.trans hunknown)]
    case h_2 hnone => exact nomatch hunknown.symm.trans hnone

/-- A dump without its root build fails its check with the name of the root build. -/
theorem check_of_unknownRoot (hroot : d.build? rootBuild = none) :
    d.check = .error (.unknownBuild rootBuild) := by
  apply check_of_find? hname
  rw [List.find?_cons_of_pos (by simp [hroot])]

variable (hroot : (d.build? rootBuild).isSome)
include hroot

/-- A dump without a build that it refers to fails its check with the first such name. -/
theorem check_of_isFirstUnknown {name : String} (hunknown : d.IsFirstUnknown name) :
    d.check = .error (.unknownBuild name) := by
  obtain ⟨root, hroot⟩ := Option.isSome_iff_exists.1 hroot
  apply check_of_find? hname
  rw [List.find?_cons_of_neg (by simp [hroot]), isFirstUnknown_iff.1 hunknown]

variable (hknown : ∀ name ∈ d.referencedBuilds, (d.build? name).isSome)
include hknown

/-- A dump whose names are known fails its check if its version cannot be read. -/
theorem check_of_version {e : HostVersion.Invalid}
    (hversion : HostVersion.parse d.gradleVersion = .error e) : d.check = .error (.version e) := by
  have hall : (rootBuild :: d.referencedBuilds).find? (fun name => (d.build? name).isNone) = none :=
    find?_isNone_eq_none_iff.2 (List.forall_mem_cons.2 ⟨hroot, hknown⟩)
  unfold check
  split
  case h_1 hnone => exact nomatch hname.symm.trans hnone
  case h_2 rootBuild' hsome =>
    obtain rfl : rootBuild = rootBuild' := Option.some.inj (hname.symm.trans hsome)
    split
    case h_1 name hunknown => exact nomatch hall.symm.trans hunknown
    case h_2 =>
      split
      case h_1 e' herror => rw [Except.error.inj (herror.symm.trans hversion)]
      case h_2 version hparsed => exact nomatch hparsed.symm.trans hversion

/-- A dump whose names are known passes its check if its version can be read. -/
theorem exists_checked (hversion : ∀ e, HostVersion.parse d.gradleVersion ≠ .error e) :
    ∃ c : Checked, c.dump = d ∧ c.rootBuild = rootBuild := by
  cases hparse : HostVersion.parse d.gradleVersion with
  | error e => exact absurd hparse (hversion e)
  | ok version =>
    exact ⟨⟨d, rootBuild, version, hname, List.forall_mem_cons.2 ⟨hroot, hknown⟩, hparse⟩, rfl, rfl⟩

end Root

/-! ## Aggregating a checked dump -/

section Checked

variable (c : Checked) {root : Build} (hroot : c.dump.build? c.rootBuild = some root)
  (toolchain : ToolchainConfig) (config : AggregationConfig)
include hroot

/-- Without projects of the root build an aggregation fails with the failures that were captured of
it. -/
theorem aggregate_of_noProjects (hprojects : root.projects = []) :
    ((c.host toolchain).aggregate config).value = .error ⟨root.failures⟩ := by
  have hnone : c.dump.model? c.rootBuild = none := by
    simp [model?, hroot, hprojects]
  rw [Host.aggregate_value, rootProject_host c hroot, hnone]
  show Except.error (RootUnavailable.mk _) = _
  rw [map_display_ofMessage]

/-- With projects of the root build every aggregation succeeds. -/
theorem exists_aggregate_of_projects (hprojects : root.projects ≠ []) :
    ∃ a, ((c.host toolchain).aggregate config).value = .ok a := by
  have hmodel : (c.host toolchain).rootProject.model = some root.model := by
    rw [rootProject_host c hroot]
    exact model?_eq_some_iff.2 ⟨root, hroot, hprojects, rfl⟩
  exact ⟨_, (Host.aggregate_eq_ok_iff _).2 ⟨_, hmodel, rfl⟩⟩

end Checked

end Dump

/-! ## The cases of a dump file -/

/-- The result is an error of the host with the given message. -/
def IsHostError (e : Dump.Invalid) (message : String) (r : Except RunError Aggregation) : Prop :=
  r = .error (.host e) ∧ e.message = message

/-- What comes of the content of a dump file, case by case: it may not be text; the text may hold no
dump; there may be no builds and no name of a root build; the root build may be unknown; another
build that is referred to may be unknown; the version may not be read; the root build may have no
projects.  Otherwise there is an aggregation. -/
def outcomeCases (content : ByteArray) : List (Case (Except RunError Aggregation)) :=
  [.when (fun _ : Unit => ∀ text : String, text.toUTF8 ≠ content)
      fun _ r => r = .error (.file .invalidData),
   .when (fun e => ∃ text : String, text.toUTF8 = content ∧ Dump.decoder.fromText text = .error e)
      fun e r => r = .error (.json e),
   .when (fun d : Dump => d.IsHeldBy content ∧ d.builds = [] ∧ d.rootBuild = none)
      fun _ => IsHostError .noBuilds "tooling dump contains no builds",
   .when (fun name => ∃ d : Dump, d.IsHeldBy content ∧ d.rootBuildName? = some name ∧
        d.build? name = none)
      fun name =>
        IsHostError (.unknownBuild name) s!"tooling dump references unknown build `{name}`",
   .when (fun name => ∃ d : Dump, d.IsHeldBy content ∧ d.IsFirstUnknown name)
      fun name =>
        IsHostError (.unknownBuild name) s!"tooling dump references unknown build `{name}`",
   .when (fun e => ∃ d : Dump, d.IsHeldBy content ∧ HostVersion.parse d.gradleVersion = .error e)
      fun e => IsHostError (.version e) e.message,
   .when (fun root : Dump.Build => ∃ d : Dump, d.IsHeldBy content ∧
        d.rootBuildName?.bind d.build? = some root ∧ root.projects = [])
      fun root r => r = .error (.aggregation ⟨root.failures⟩),
   .otherwise fun r => ∃ a, r = .ok a]

/-- Two runs end alike: both with the same error, or both with an aggregation. -/
inductive RunsAlike : Except RunError Aggregation → Except RunError Aggregation → Prop
  | failed (e : RunError) : RunsAlike (.error e) (.error e)
  | succeeded (a₁ a₂ : Aggregation) : RunsAlike (.ok a₁) (.ok a₂)

section Content

variable (path : Path) {content : ByteArray} (config : AggregationConfig)

/-- What is not loaded is not aggregated. -/
theorem aggregateContent_of_load_error {e : RunError} (h : Dump.load content = .error e) :
    (aggregateContent path content config).value = .error e := by
  unfold aggregateContent
  rw [h]
  rfl

/-- What is loaded is aggregated. -/
theorem aggregateContent_of_load_ok {c : Dump.Checked} (h : Dump.load content = .ok c) :
    (aggregateContent path content config).value =
      ((c.host .default).aggregate config).value.mapError .aggregation := by
  unfold aggregateContent
  rw [h]
  simp only [Logged.value_bind]
  cases ((c.host .default).aggregate config).value with
  | error e => rfl
  | ok a =>
    -- That diagnostics are left is told as an event, which does not change the result.
    show (if (!a.diagnostics.isEmpty) = true then _ else _ : Logged _).value = _
    split
    · rfl
    · rfl

/-- A dump that fails its check is not aggregated. -/
theorem aggregateContent_of_check_error {d : Dump} (hd : d.IsHeldBy content) {e : Dump.Invalid}
    (h : d.check = .error e) : (aggregateContent path content config).value = .error (.host e) := by
  apply aggregateContent_of_load_error
  rw [Dump.load_of_isHeldBy hd, h]
  rfl

section Checked

variable (c : Dump.Checked) (hc : c.dump.IsHeldBy content)
include hc

/-- A checked dump is aggregated. -/
theorem aggregateContent_of_isHeldBy : (aggregateContent path content config).value =
    ((c.host .default).aggregate config).value.mapError .aggregation := by
  apply aggregateContent_of_load_ok
  rw [Dump.load_of_isHeldBy hc, Dump.check_eq_ok_iff.2 rfl]
  rfl

variable {root : Dump.Build} (hroot : c.dump.build? c.rootBuild = some root)
include hroot

/-- A dump whose root build has no projects is not aggregated, for the failures that were captured
of the root build. -/
theorem aggregateContent_of_noProjects (hprojects : root.projects = []) :
    (aggregateContent path content config).value = .error (.aggregation ⟨root.failures⟩) := by
  rw [aggregateContent_of_isHeldBy path config c hc,
    Dump.aggregate_of_noProjects c hroot .default config hprojects]
  rfl

/-- A dump whose root build has projects is aggregated. -/
theorem exists_aggregateContent_of_projects (hprojects : root.projects ≠ []) :
    ∃ a, (aggregateContent path content config).value = .ok a := by
  obtain ⟨a, ha⟩ := Dump.exists_aggregate_of_projects c hroot .default config hprojects
  refine ⟨a, ?_⟩
  rw [aggregateContent_of_isHeldBy path config c hc, ha]
  rfl

end Checked

/-- The cases about a dump decide what comes of a content that is the text of a dump. -/
theorem decided_of_isHeldBy {d : Dump} (hd : d.IsHeldBy content) :
    Case.Decided (aggregateContent path content config).value ((outcomeCases content).drop 2) := by
  -- Each case is settled before the next one, which may use that it does not apply.
  refine .step ?_ fun hbuilds => ?_
  · rintro d' ⟨hd', hnil, hnone⟩
    exact ⟨aggregateContent_of_check_error path config hd' (Dump.check_of_noBuilds hnil hnone), rfl⟩
  obtain ⟨rootBuild, hname⟩ : ∃ rootBuild, d.rootBuildName? = some rootBuild := by
    rw [← Option.ne_none_iff_exists', ne_eq, Dump.rootBuildName?_eq_none_iff]
    exact fun h => hbuilds d ⟨hd, h⟩
  refine .step ?_ fun hunknownRoot => ?_
  · rintro name ⟨d', hd', hname', hnone⟩
    have hcheck := Dump.check_of_unknownRoot hname' hnone
    exact ⟨aggregateContent_of_check_error path config hd' hcheck, rfl⟩
  obtain ⟨root, hroot⟩ : ∃ root, d.build? rootBuild = some root := by
    rw [← Option.ne_none_iff_exists']
    exact fun hnone => hunknownRoot rootBuild ⟨d, hd, hname, hnone⟩
  have hrootKnown : (d.build? rootBuild).isSome := Option.isSome_iff_exists.2 ⟨root, hroot⟩
  refine .step ?_ fun hunknown => ?_
  · rintro name ⟨d', hd', hfirst⟩
    obtain rfl := hd'.unique hd
    have hcheck := Dump.check_of_isFirstUnknown hname hrootKnown hfirst
    exact ⟨aggregateContent_of_check_error path config hd hcheck, rfl⟩
  have hknown : ∀ name ∈ d.referencedBuilds, (d.build? name).isSome :=
    Dump.known_of_forall_not_isFirstUnknown fun name hfirst => hunknown name ⟨d, hd, hfirst⟩
  refine .step ?_ fun hversion => ?_
  · rintro e ⟨d', hd', he⟩
    obtain rfl := hd'.unique hd
    have hcheck := Dump.check_of_version hname hrootKnown hknown he
    exact ⟨aggregateContent_of_check_error path config hd hcheck, rfl⟩
  obtain ⟨c, rfl, rfl⟩ := Dump.exists_checked hname hrootKnown hknown fun e he =>
    hversion e ⟨d, hd, he⟩
  have hbuild : c.dump.rootBuildName?.bind c.dump.build? = some root := by
    rw [hname, Option.bind_some, hroot]
  refine .step ?_ fun hprojects => .here trivial ?_
  · rintro root' ⟨d', hd', hbuild', hnil⟩
    obtain rfl := hd'.unique hd
    obtain rfl : root = root' := Option.some.inj (hbuild.symm.trans hbuild')
    exact aggregateContent_of_noProjects path config c hd hroot hnil
  · exact exists_aggregateContent_of_projects path config c hd hroot fun hnil =>
      hprojects root ⟨c.dump, hd, hbuild, hnil⟩

variable (content)

/-- The first of the cases that applies decides what comes of a content. -/
theorem decided_aggregateContent :
    Case.Decided (aggregateContent path content config).value (outcomeCases content) := by
  refine .step ?_ fun hsome => .step ?_ fun hdump => ?_
  · intro _ htext
    exact aggregateContent_of_load_error path config (Dump.load_of_not_text htext)
  · rintro e ⟨text, rfl, he⟩
    exact aggregateContent_of_load_error path config (Dump.load_of_not_dump he)
  · obtain ⟨text, htext⟩ := not_forall_not.1 (hsome ())
    cases hdecode : Dump.decoder.fromText text with
    | error e => exact absurd ⟨text, htext, hdecode⟩ (hdump e)
    | ok d => exact decided_of_isHeldBy path config ⟨text, htext, hdecode⟩

/-- The settings of an aggregation do not decide whether there is one, nor about its error. -/
theorem runsAlike_aggregateContent (config₁ config₂ : AggregationConfig) :
    RunsAlike (aggregateContent path content config₁).value
      (aggregateContent path content config₂).value := by
  cases hload : Dump.load content with
  | error e =>
    rw [aggregateContent_of_load_error path config₁ hload,
      aggregateContent_of_load_error path config₂ hload]
    exact .failed e
  | ok c =>
    rw [aggregateContent_of_load_ok path config₁ hload,
      aggregateContent_of_load_ok path config₂ hload, Host.aggregate_value, Host.aggregate_value]
    cases (c.host .default).rootProject.model with
    | none => exact .failed _
    | some root => exact .succeeded _ _

end Content

/-! ## Files -/

/-- What comes of a dump file in a tree of files, and the tree after the run. -/
def FileTree.aggregated (t : FileTree) (path : Path) (config : AggregationConfig) :
    Except RunError Aggregation × FileTree :=
  let (result, t) := (aggregateFile path config : StateM FileTree _).run t
  (result.value, t)

/-- Aggregating a dump file gives what comes of its content, or the error that it cannot be read,
and leaves all files as they are. -/
theorem FileTree.run_aggregateFile (t : FileTree) (path : Path) (config : AggregationConfig) :
    (aggregateFile path config : StateM FileTree _).run t =
      (match t.read path with
        | .error e => pure (.error (.file e))
        | .ok content => aggregateContent path content config, t) := by
  have hfile : (FileStore.read path : StateM FileTree _).run t = (t.read path, t) := rfl
  unfold aggregateFile
  rw [StateT.run_bind, hfile]
  cases t.read path with
  | error e => rfl
  | ok content => rfl

/-- What comes of a file that can be read is what comes of its content. -/
theorem FileTree.aggregated_of_read {t : FileTree} {path : Path} {content : ByteArray}
    (hread : t.read path = .ok content) (config : AggregationConfig) :
    t.aggregated path config = ((aggregateContent path content config).value, t) := by
  unfold aggregated
  rw [run_aggregateFile, hread]

/-- **What comes of a dump file.**  For a file with any content and for all settings, the first of
the cases that applies decides whether there is an aggregation or which error there is.  The
settings make no difference to this.  Once a dump is accepted, there is an aggregation exactly if
its root build has projects, whatever else is in the dump. -/
theorem outcome_of_dumpFile {t : FileTree} {path : Path} {content : ByteArray}
    (hread : t.read path = .ok content) :
    (∀ config, Case.Decided (t.aggregated path config).1 (outcomeCases content) ∧
        (t.aggregated path config).2 = t) ∧
      (∀ config₁ config₂, RunsAlike (t.aggregated path config₁).1 (t.aggregated path config₂).1) ∧
      ∀ c : Dump.Checked, c.dump.IsHeldBy content →
        ∀ root, c.dump.build? c.rootBuild = some root → ∀ config,
          (∃ a, (t.aggregated path config).1 = .ok a) ↔ root.projects ≠ [] := by
  simp only [FileTree.aggregated_of_read hread]
  refine ⟨fun config => ⟨decided_aggregateContent path content config, trivial⟩,
    runsAlike_aggregateContent path content, fun c hc root hroot config => ⟨?_, ?_⟩⟩
  · rintro ⟨a, ha⟩ hnil
    rw [aggregateContent_of_noProjects path config c hc hroot hnil] at ha
    exact nomatch ha
  · exact exists_aggregateContent_of_projects path config c hc hroot

/-! ## A file with several faults -/

namespace ManyFaults

/-- A dump whose root build has no projects and includes builds that are unknown, as are its
editable build and its version. -/
def dump : Dump where
  gradleVersion := "nightly"
  rootBuild := none
  builds := [⟨"app", none, none, [], ["app", "gone", "lost"], ["no settings"]⟩]
  editableBuilds := ["stray"]

/-- The text of the dump. -/
def text : String := dump.toJson.toText .compact

/-- A tree with a file of this text. -/
def tree : FileTree := FileTree.empty.put ["dump.json", "work"] (.file text.toUTF8)

/-- The path of the file. -/
def path : Path := ⟨"dump.json"⟩

/-- The file can be read. -/
theorem read_tree : tree.read path = .ok text.toUTF8 := rfl

/-- The file holds the dump. -/
theorem isHeldBy_text : dump.IsHeldBy text.toUTF8 := by
  have hnone : dump.propertyNodes = [] := rfl
  have hintegral : ∀ q ∈ dump.propertyNodes, q.isDouble = false := by
    rw [hnone]
    exact nofun
  exact ⟨text, rfl, Dump.fromText_toText hintegral (by decide) .compact⟩

end ManyFaults

/-- Of the faults of that file only the first matters: the build `gone` is unknown. -/
theorem outcome_of_manyFaults :
    ManyFaults.tree.read ManyFaults.path = .ok ManyFaults.text.toUTF8 ∧
      ManyFaults.dump.IsHeldBy ManyFaults.text.toUTF8 ∧
      ∀ config, (ManyFaults.tree.aggregated ManyFaults.path config).1 =
        .error (.host (.unknownBuild "gone")) := by
  have hheld := ManyFaults.isHeldBy_text
  refine ⟨ManyFaults.read_tree, hheld, fun config => ?_⟩
  obtain ⟨hdecided, -⟩ := (outcome_of_dumpFile ManyFaults.read_tree).1 config
  replace hdecided := hdecided.of_not_applies fun ⟨_, htext⟩ => htext ManyFaults.text rfl
  replace hdecided := hdecided.of_not_applies fun ⟨e, text, htext, he⟩ =>
    nomatch (hheld.fromText_eq htext).symm.trans he
  replace hdecided := hdecided.of_not_applies fun ⟨d, hd, hbuilds, _⟩ => by
    obtain rfl := hd.unique hheld
    exact List.cons_ne_nil _ _ hbuilds
  replace hdecided := hdecided.of_not_applies fun ⟨name, d, hd, hname, hnone⟩ => by
    obtain rfl := hd.unique hheld
    obtain rfl : "app" = name := Option.some.inj hname
    exact Option.some_ne_none _ hnone
  have hfirst : ManyFaults.dump.IsFirstUnknown "gone" :=
    ⟨["app"], ["lost", "stray"], rfl, List.forall_mem_singleton.2 rfl, rfl⟩
  have hgives := hdecided.gives_of_applies ⟨"gone", ManyFaults.dump, hheld, hfirst⟩
  exact (hgives "gone" ⟨ManyFaults.dump, hheld, hfirst⟩).1

end CompositeBuild
