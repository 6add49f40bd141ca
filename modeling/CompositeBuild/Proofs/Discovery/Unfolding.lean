/-
# Unfolding ends

The includes are unfolded by calls that share a chain of names.  A call puts its build on the chain,
makes a call for each build that it includes and that is not on the chain, and takes its build off
again.  Here the loops of these calls are described with the chain that they find and the one that
they leave (`LoopEnds`), and nothing in this says that they end.  They do, whatever includes what:
each call that a call makes leaves fewer names off the chain, so no chain of calls goes on forever
(`wellFounded_makes`), and each call returns with the chain as it found it (`callEnds_iff`).
Together they make the graph, which is no deeper than there are names (`unfolding_ends`).
-/
import CompositeBuild.Proofs.Discovery.IncludePaths
import Mathlib.Data.Finset.Card
import Mathlib.Data.Finset.Dedup

namespace CompositeBuild

/-- Computations with the same result and the same events are the same. -/
theorem Logged.eq_of {α : Type} {x y : Logged α} (hvalue : x.value = y.value)
    (hevents : x.events = y.events) : x = y := by
  cases x
  cases y
  exact congrArg₂ Logged.mk hvalue hevents

namespace Dump

/-! ## Calls and loops -/

/-- A call that unfolds a build, with the chain of names that it finds, the last name first. -/
structure Call where
  chain : List String
  build : Build

/-- The chain while a call runs: it has put its build there. -/
def Call.running (call : Call) : List String := call.build.name :: call.chain

/-- A build as it is shown with what is shown of the builds that it includes. -/
def Build.showing (b : Build) (included : Logged (List BuildRef)) : Logged BuildRef := do
  return { b.ref with included := ← included }

/-- What a loop over names leaves: the builds that it shows, the calls that it has made, and the
chain. -/
structure LoopResult where
  shown : Logged (List BuildRef)
  calls : List Call
  chain : List String

/-- A loop follows a name, unless it is guarded and the name is on the chain. -/
def Follows (guarded : Bool) (chain : List String) (name : String) : Prop :=
  guarded = true → name ∉ chain

instance (guarded : Bool) (chain : List String) : DecidablePred (Follows guarded chain) :=
  fun _ => inferInstanceAs (Decidable (_ → _))

theorem follows_true_iff {chain : List String} {name : String} :
    Follows true chain name ↔ ¬ chain.contains name := by
  simp [Follows]

theorem follows_false (chain : List String) (name : String) : Follows false chain name := nofun

variable (d : Dump)

/-- A loop over names ends, from a chain and with a result.  It tells the names that it does not
follow and passes over those without a build.  For each other name it makes a call, which has a
guarded loop of its own, and goes on with the chain that this call leaves: that of its loop without
the last name. -/
inductive LoopEnds : Bool → List String → List String → LoopResult → Prop
  | done {guarded : Bool} {chain : List String} : LoopEnds guarded chain [] ⟨pure [], [], chain⟩
  | cycle {guarded : Bool} {chain rest : List String} {name : String} {result : LoopResult} :
      ¬ Follows guarded chain name → LoopEnds guarded chain rest result →
        LoopEnds guarded chain (name :: rest)
          ⟨do Logged.tell (.includeCycle name); result.shown, result.calls, result.chain⟩
  | unknown {guarded : Bool} {chain rest : List String} {name : String} {result : LoopResult} :
      Follows guarded chain name → d.build? name = none → LoopEnds guarded chain rest result →
        LoopEnds guarded chain (name :: rest) result
  | call {guarded : Bool} {chain rest : List String} {name : String} {b : Build}
      {inner result : LoopResult} :
      Follows guarded chain name → d.build? name = some b →
        LoopEnds true (b.name :: chain) b.includedBuilds inner →
        LoopEnds guarded inner.chain.tail rest result →
          LoopEnds guarded chain (name :: rest)
            ⟨do return (← b.showing inner.shown) :: (← result.shown), ⟨chain, b⟩ :: result.calls,
              result.chain⟩

/-- A call ends, with the build that it shows and the chain that it leaves. -/
def CallEnds (call : Call) (shown : Logged BuildRef) (chain : List String) : Prop :=
  ∃ inner, d.LoopEnds true call.running call.build.includedBuilds inner ∧
    shown = call.build.showing inner.shown ∧ chain = inner.chain.tail

/-- While one call runs, its loop makes the other. -/
def Makes (call next : Call) : Prop :=
  ∃ inner, d.LoopEnds true call.running call.build.includedBuilds inner ∧ next ∈ inner.calls

/-! ## What the loops leave -/

/-- The build of a call, unfolded below its chain. -/
def unfoldCall (call : Call) : Logged BuildRef :=
  call.build.showing (d.includedRefs call.running call.build.includedBuilds)

/-- The builds that a loop shows. -/
def loopShown : Bool → List String → List String → Logged (List BuildRef)
  | true, chain, names => d.includedRefs chain names
  | false, chain, names =>
    Logged.forEach (names.filterMap d.build?) fun b => d.unfoldCall ⟨chain, b⟩

/-- The calls that a loop makes, all with the same chain. -/
def loopCalls (guarded : Bool) (chain names : List String) : List Call :=
  ((names.filter (Follows guarded chain)).filterMap d.build?).map (Call.mk chain)

/-- What a loop leaves, if the chain is the one that it has found. -/
def loopResult (guarded : Bool) (chain names : List String) : LoopResult :=
  ⟨d.loopShown guarded chain names, d.loopCalls guarded chain names, chain⟩

section Steps

variable {d} {guarded : Bool} {chain rest : List String} {name : String} {b : Build}

theorem loopShown_nil : d.loopShown guarded chain [] = pure [] := by
  cases guarded with
  | false => rfl
  | true => rw [loopShown, includedRefs]

theorem loopShown_cycle (hname : ¬ Follows guarded chain name) :
    d.loopShown guarded chain (name :: rest) =
      (do Logged.tell (.includeCycle name); d.loopShown guarded chain rest) := by
  cases guarded with
  | false => exact absurd (follows_false chain name) hname
  | true =>
    rw [follows_true_iff, not_not] at hname
    rw [loopShown, includedRefs, dif_pos hname, loopShown]

theorem loopShown_unknown (hname : Follows guarded chain name) (hnone : d.build? name = none) :
    d.loopShown guarded chain (name :: rest) = d.loopShown guarded chain rest := by
  cases guarded with
  | false => rw [loopShown, loopShown, List.filterMap_cons_none hnone]
  | true =>
    rw [loopShown, includedRefs, dif_neg (follows_true_iff.1 hname), loopShown]
    split
    case h_1 => rfl
    case h_2 b hsome => exact absurd hsome (by simp [hnone])

theorem loopShown_call (hname : Follows guarded chain name) (hbuild : d.build? name = some b) :
    d.loopShown guarded chain (name :: rest) =
      (do return (← d.unfoldCall ⟨chain, b⟩) :: (← d.loopShown guarded chain rest)) := by
  cases guarded with
  | false =>
    rw [loopShown, List.filterMap_cons_some hbuild]
    rfl
  | true =>
    rw [loopShown, includedRefs, dif_neg (follows_true_iff.1 hname)]
    split
    case h_1 hnone => exact absurd hnone (by simp [hbuild])
    case h_2 b' hbuild' =>
      obtain rfl : b = b' := Option.some.inj (hbuild.symm.trans hbuild')
      obtain rfl : b.name = name := name_of_build? hbuild
      exact Logged.eq_of rfl (by simp [unfoldCall, Call.running, Build.showing, loopShown])

theorem loopCalls_cycle (hname : ¬ Follows guarded chain name) :
    d.loopCalls guarded chain (name :: rest) = d.loopCalls guarded chain rest := by
  unfold loopCalls
  rw [List.filter_cons_of_neg (by simpa using hname)]

theorem loopCalls_unknown (hname : Follows guarded chain name) (hnone : d.build? name = none) :
    d.loopCalls guarded chain (name :: rest) = d.loopCalls guarded chain rest := by
  unfold loopCalls
  rw [List.filter_cons_of_pos (by simpa using hname), List.filterMap_cons_none hnone]

theorem loopCalls_call (hname : Follows guarded chain name) (hbuild : d.build? name = some b) :
    d.loopCalls guarded chain (name :: rest) = ⟨chain, b⟩ :: d.loopCalls guarded chain rest := by
  unfold loopCalls
  rw [List.filter_cons_of_pos (by simpa using hname), List.filterMap_cons_some hbuild,
    List.map_cons]

/-- The calls of a loop are for the names that it follows. -/
theorem mem_loopCalls {names : List String} {call : Call} :
    call ∈ d.loopCalls guarded chain names ↔ call.chain = chain ∧
      ∃ name ∈ names, Follows guarded chain name ∧ d.build? name = some call.build := by
  unfold loopCalls
  simp only [List.mem_map, List.mem_filterMap, List.mem_filter, decide_eq_true_eq, and_assoc]
  constructor
  · rintro ⟨b, h, rfl⟩
    exact ⟨rfl, h⟩
  · rintro ⟨rfl, h⟩
    exact ⟨call.build, h, rfl⟩

end Steps

variable {d}

/-- Whatever a loop leaves is its result, so the chain is as it found it. -/
theorem LoopEnds.eq_loopResult {guarded : Bool} {chain names : List String} {result : LoopResult}
    (h : d.LoopEnds guarded chain names result) : result = d.loopResult guarded chain names := by
  unfold loopResult
  induction h with
  | done => rw [loopShown_nil]; rfl
  | cycle hname _ ih => rw [ih, loopShown_cycle hname, loopCalls_cycle hname]
  | unknown hname hnone _ ih =>
    rw [ih, loopShown_unknown hname hnone, loopCalls_unknown hname hnone]
  | call hname hbuild _ _ ihInner ihRest =>
    -- The call takes off the chain what it has put there, as its loop leaves all of it.
    rw [ihInner, List.tail_cons] at ihRest
    rw [ihInner, ihRest, loopShown_call hname hbuild, loopCalls_call hname hbuild]
    rfl

/-- A loop ends if those of its calls do. -/
theorem loopEnds_of_calls {guarded : Bool} {chain names : List String}
    (hcalls : ∀ call ∈ d.loopCalls guarded chain names, d.LoopEnds true call.running
      call.build.includedBuilds (d.loopResult true call.running call.build.includedBuilds)) :
    d.LoopEnds guarded chain names (d.loopResult guarded chain names) := by
  unfold loopResult at hcalls ⊢
  induction names with
  | nil =>
    rw [loopShown_nil]
    exact .done
  | cons name rest ih =>
    by_cases hname : Follows guarded chain name
    · cases hbuild : d.build? name with
      | none =>
        rw [loopCalls_unknown hname hbuild] at hcalls ⊢
        rw [loopShown_unknown hname hbuild]
        exact .unknown hname hbuild (ih hcalls)
      | some b =>
        rw [loopCalls_call hname hbuild] at hcalls ⊢
        obtain ⟨hcall, hrest⟩ := List.forall_mem_cons.1 hcalls
        rw [loopShown_call hname hbuild]
        exact .call hname hbuild hcall (ih hrest)
    · rw [loopCalls_cycle hname] at hcalls ⊢
      rw [loopShown_cycle hname]
      exact .cycle hname (ih hcalls)

/-! ## Fewer and fewer names -/

/-- The number of names of builds that are not on a chain, each name counted once. -/
def countOff (d : Dump) (chain : List String) : ℕ := (d.namesOff chain).toFinset.card

/-- A build that is put on the chain leaves fewer names off it. -/
theorem countOff_lt {chain : List String} {name : String} {b : Build} (hname : name ∉ chain)
    (hbuild : d.build? name = some b) : d.countOff (name :: chain) < d.countOff chain := by
  have hoff (n : String) (chain : List String) :
      n ∈ (d.namesOff chain).toFinset ↔ n ∈ d.builds.map Build.name ∧ n ∉ chain := by
    simp [namesOff]
  apply Finset.card_lt_card
  rw [Finset.ssubset_iff_of_subset]
  · refine ⟨name, (hoff _ _).2 ⟨?_, hname⟩, fun hmem => ((hoff _ _).1 hmem).2 List.mem_cons_self⟩
    exact List.mem_map.2 ⟨b, List.mem_of_find?_eq_some hbuild, name_of_build? hbuild⟩
  · intro n hn
    obtain ⟨hmem, hnot⟩ := (hoff _ _).1 hn
    exact (hoff _ _).2 ⟨hmem, fun hchain => hnot (List.mem_cons_of_mem _ hchain)⟩

/-- The calls of a guarded loop leave fewer names off the chain. -/
theorem countOff_lt_of_mem_loopCalls {chain names : List String} {call : Call}
    (h : call ∈ d.loopCalls true chain names) :
    call.chain = chain ∧ d.countOff call.running < d.countOff chain := by
  obtain ⟨rfl, name, -, hname, hbuild⟩ := mem_loopCalls.1 h
  refine ⟨rfl, ?_⟩
  unfold Call.running
  rw [name_of_build? hbuild]
  exact countOff_lt (hname rfl) hbuild

/-- Every guarded loop ends. -/
theorem loopEnds_guarded (chain names : List String) :
    d.LoopEnds true chain names (d.loopResult true chain names) := by
  induction hcount : d.countOff chain using Nat.strongRecOn generalizing chain names with
  | ind count ih =>
    subst hcount
    refine loopEnds_of_calls fun call hcall => ?_
    exact ih _ (countOff_lt_of_mem_loopCalls hcall).2 _ _ rfl

/-- Every loop ends in one way, with the chain that it found. -/
theorem loopEnds_iff {guarded : Bool} {chain names : List String} {result : LoopResult} :
    d.LoopEnds guarded chain names result ↔ result = d.loopResult guarded chain names := by
  refine ⟨LoopEnds.eq_loopResult, ?_⟩
  rintro rfl
  exact loopEnds_of_calls fun call _ => loopEnds_guarded _ _

/-- Every call ends in one way, with the chain that it found. -/
theorem callEnds_iff {call : Call} {shown : Logged BuildRef} {chain : List String} :
    d.CallEnds call shown chain ↔ shown = d.unfoldCall call ∧ chain = call.chain := by
  unfold CallEnds
  simp only [loopEnds_iff, exists_eq_left]
  rfl

/-- A call finds the chain of the call that makes it, and leaves fewer names off it. -/
theorem countOff_lt_of_makes {call next : Call} (h : d.Makes call next) :
    next.chain = call.running ∧ d.countOff next.running < d.countOff call.running := by
  obtain ⟨inner, hinner, hnext⟩ := h
  rw [loopEnds_iff.1 hinner] at hnext
  exact countOff_lt_of_mem_loopCalls hnext

/-- No chain of calls goes on forever. -/
theorem wellFounded_makes : WellFounded fun next call => d.Makes call next :=
  Subrelation.wf (fun h => (countOff_lt_of_makes h).2)
    (measure fun call : Call => d.countOff call.running).wf

/-! ## The graph -/

section Graph

variable (c : Checked)

/-- The names on a chain of includes are known, except perhaps the first. -/
theorem isSome_build?_of_isChain {start : String} {path : List String}
    (h : (start :: path).IsChain c.dump.Includes) : ∀ name ∈ path, (c.dump.build? name).isSome := by
  induction path generalizing start with
  | nil => exact List.forall_mem_nil _
  | cons next rest ih =>
    obtain ⟨hincludes, hrest⟩ := List.isChain_cons_cons.1 h
    exact List.forall_mem_cons.2 ⟨c.isSome_build?_of_includes hincludes, ih hrest⟩

/-- The paths in the view of the included builds have no more names than there are. -/
theorem length_le_of_showsPath {path : List String}
    (hpath : (c.dump.graph c.rootBuild).value.ShowsPath path) :
    path.length ≤ (c.dump.builds.map Build.name).toFinset.card := by
  obtain ⟨-, hchain, hnodup, -⟩ := (showsPath_graph_iff c).1 hpath
  rw [← List.toFinset_card_of_nodup hnodup]
  apply Finset.card_le_card
  intro name hname
  rw [List.mem_toFinset] at hname ⊢
  obtain ⟨b, hbuild⟩ :=
    Option.isSome_iff_exists.1 (isSome_build?_of_isChain c hchain name hname)
  exact List.mem_map.2 ⟨b, List.mem_of_find?_eq_some hbuild, name_of_build? hbuild⟩

/-- The graph is what the loop over the includes of the root build leaves. -/
theorem graph_eq_loopShown {root : Build} (hroot : c.dump.build? c.rootBuild = some root) :
    (c.dump.graph c.rootBuild).value.includedBuilds =
        (c.dump.loopShown false [root.name] root.includedBuilds).value ∧
      (c.dump.graph c.rootBuild).events =
        (c.dump.loopShown false [root.name] root.includedBuilds).events := by
  unfold graph
  rw [hroot]
  exact ⟨rfl, List.append_nil (c.dump.rootIncludes root).events⟩

end Graph

/-- **Unfolding ends.** A call that another makes finds the chain of that one, and leaves fewer
names of builds off it than there were, so no chain of calls goes on forever.  Each call ends, in
one way, and leaves the chain as it found it.  The graph of a checked dump is what the loop over the
includes of the root build leaves, which follows each of them and ends with the chain it started
from; and no path in it has more builds than there are names of builds. -/
theorem unfolding_ends (c : Checked) :
    (∀ call next, c.dump.Makes call next →
      next.chain = call.running ∧ c.dump.countOff next.running < c.dump.countOff next.chain) ∧
    (WellFounded fun next call => c.dump.Makes call next) ∧
    (∀ call shown chain, c.dump.CallEnds call shown chain ↔
      shown = c.dump.unfoldCall call ∧ chain = call.chain) ∧
    (∃ root, c.dump.build? c.rootBuild = some root ∧
      ∃ result, (∀ result', c.dump.LoopEnds false [root.name] root.includedBuilds result' ↔
          result' = result) ∧
        result.chain = [root.name] ∧
        (c.dump.graph c.rootBuild).value.includedBuilds = result.shown.value ∧
        (c.dump.graph c.rootBuild).events = result.shown.events) ∧
    ∀ path, (c.dump.graph c.rootBuild).value.ShowsPath path →
      path.length ≤ (c.dump.builds.map Build.name).toFinset.card := by
  refine ⟨fun call next hmakes => ?_, wellFounded_makes, fun _ _ _ => callEnds_iff, ?_,
    fun path => length_le_of_showsPath c⟩
  · obtain ⟨hchain, hcount⟩ := countOff_lt_of_makes hmakes
    exact ⟨hchain, hchain ▸ hcount⟩
  · obtain ⟨root, hroot, -⟩ := c.exists_root
    obtain ⟨hvalue, hevents⟩ := graph_eq_loopShown c hroot
    exact ⟨root, hroot, _, fun _ => loopEnds_iff, rfl, hvalue, hevents⟩

end Dump

/-! ### A root build below itself -/

namespace IncludeCycles

open Dump

/-- In this dump the root build includes itself, so that it is on the chain twice, and one path
shows all names. -/
theorem unfolding_of_includeCycles :
    dump.check = .ok checked ∧
      dump.Makes ⟨["app"], app⟩ ⟨["app", "app"], build "tools" [":"] ["lib", "app"]⟩ ∧
      dump.countOff ["tools", "app", "app"] < dump.countOff ["app", "app"] ∧
      (dump.graph "app").value.ShowsPath ["app", "tools", "lib", "docs", "extra"] ∧
      ∀ path, (dump.graph "app").value.ShowsPath path → path.length ≤ 5 := by
  have hmakes : dump.Makes ⟨["app"], app⟩ ⟨["app", "app"], build "tools" [":"] ["lib", "app"]⟩ :=
    ⟨_, loopEnds_iff.2 rfl, mem_loopCalls.2 ⟨rfl, "tools", by decide, by decide, rfl⟩⟩
  obtain ⟨hfewer, -, -, -, hlength⟩ := unfolding_ends checked
  refine ⟨rfl, hmakes, (hfewer _ _ hmakes).2, ?_, hlength⟩
  refine (showsPath_graph_iff checked).2 ⟨List.cons_ne_nil _ _, ?_, by decide, by decide⟩
  simp only [List.isChain_cons_cons]
  exact ⟨⟨_, rfl, by decide⟩, ⟨_, rfl, by decide⟩, ⟨_, rfl, by decide⟩, ⟨_, rfl, by decide⟩,
    ⟨_, rfl, by decide⟩, .singleton _⟩

end IncludeCycles

end CompositeBuild
