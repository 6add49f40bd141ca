/-
# The include graph

A dump unfolds the includes of its builds into trees of builds, each cut where its chain of includes
comes back to itself, and discovery walks those trees breadth first.  The names that it finds are
those of a search of the includes themselves (`map_name_walk`): what a tree is cut at has been found
before the walk comes to it.
-/
import CompositeBuild.Dump.Host
import CompositeBuild.Proofs.Discovery.Walk

namespace CompositeBuild

namespace Dump

variable (d : Dump)

/-! ## Breadth-first search -/

set_option linter.unusedVariables false in
/-- Searches the includes of the builds of a dump breadth first from the names in a queue, and gives
the names that are reached in the order in which they are.  A name that was seen or has no build is
passed over. -/
def breadthFirst (seen : List String) : List String → List String
  | [] => []
  | name :: queue =>
    if hseen : seen.contains name then breadthFirst seen queue
    else
      match hbuild : d.build? name with
      | none => breadthFirst seen queue
      | some b => name :: breadthFirst (name :: seen) (queue ++ b.includedBuilds)
  termination_by queue => ((d.namesOff seen).length, queue.length)
  decreasing_by
    · exact Prod.Lex.right _ (by simp)
    · exact Prod.Lex.right _ (by simp)
    · exact Prod.Lex.left _ _ (length_namesOff_lt hseen hbuild)

/-- No name is reached that was seen before. -/
theorem not_mem_breadthFirst {seen queue : List String} {name : String} (hname : name ∈ seen) :
    name ∉ d.breadthFirst seen queue := by
  fun_induction breadthFirst d seen queue with
  | case1 => simp
  | case2 seen next queue hseen ih => exact ih hname
  | case3 seen next queue hseen hbuild ih => exact ih hname
  | case4 seen next queue hseen b hbuild ih =>
    rw [List.mem_cons, not_or]
    refine ⟨?_, ih (List.mem_cons_of_mem _ hname)⟩
    rintro rfl
    exact hseen (by simpa using hname)

/-- Every name is reached once. -/
theorem nodup_breadthFirst (seen queue : List String) : (d.breadthFirst seen queue).Nodup := by
  fun_induction breadthFirst d seen queue with
  | case1 => exact List.nodup_nil
  | case2 seen next queue hseen ih => exact ih
  | case3 seen next queue hseen hbuild ih => exact ih
  | case4 seen next queue hseen b hbuild ih =>
    exact List.nodup_cons.2 ⟨d.not_mem_breadthFirst List.mem_cons_self, ih⟩

/-! ## Unfolding -/

/-- A build as the graph shows it below a chain of includes. -/
def unfold (chain : List String) (b : Build) : BuildRef :=
  { b.ref with included := (d.includedRefs (b.name :: chain) b.includedBuilds).value }

@[simp] theorem unfold_name (chain : List String) (b : Build) : (d.unfold chain b).name = b.name :=
  rfl

theorem name_of_build? {d : Dump} {name : String} {b : Build} (hbuild : d.build? name = some b) :
    b.name = name := by
  simpa using List.find?_some hbuild

section Steps

variable {chain : List String} {name : String} {rest : List String}

theorem includedRefs_nil : (d.includedRefs chain []).value = [] := by
  rw [includedRefs]
  rfl

theorem includedRefs_of_mem (hname : name ∈ chain) :
    (d.includedRefs chain (name :: rest)).value = (d.includedRefs chain rest).value := by
  rw [includedRefs, dif_pos (by simpa using hname)]
  rfl

/-- A name without a build is not followed. -/
theorem includedRefs_of_none (hbuild : d.build? name = none) :
    (d.includedRefs chain (name :: rest)).value = (d.includedRefs chain rest).value := by
  rw [includedRefs]
  split
  · rfl
  · split
    case h_1 => rfl
    case h_2 b hsome => exact absurd hsome (by simp [hbuild])

/-- Any other name is unfolded below the chain. -/
theorem includedRefs_of_some {b : Build} (hname : name ∉ chain) (hbuild : d.build? name = some b) :
    (d.includedRefs chain (name :: rest)).value =
      d.unfold chain b :: (d.includedRefs chain rest).value := by
  rw [includedRefs, dif_neg (by simpa using hname)]
  split
  case h_1 hnone => exact absurd hnone (by simp [hbuild])
  case h_2 b' hbuild' =>
    obtain rfl : b = b' := Option.some.inj (hbuild.symm.trans hbuild')
    rw [← name_of_build? hbuild]
    rfl

end Steps

/-- The includes of the root build are unfolded below it, also if it includes itself. -/
theorem rootIncludes_value (root : Build) : (d.rootIncludes root).value =
    (root.includedBuilds.filterMap d.build?).map (d.unfold [root.name]) := by
  unfold rootIncludes
  rw [Logged.value_forEach]
  rfl

/-! ## Trees against names -/

/-- A queue of trees stands for a queue of names: each tree is the build of a name, unfolded below a
chain of names that were seen, and the names without a tree were seen or have no build. -/
inductive Covers (seen : List String) : List BuildRef → List String → Prop
  | nil : Covers seen [] []
  | pass {items : List BuildRef} {name : String} {names : List String} :
      name ∈ seen ∨ d.build? name = none → Covers seen items names →
        Covers seen items (name :: names)
  | tree {items : List BuildRef} {name : String} {names chain : List String} {b : Build} :
      d.build? name = some b → chain ⊆ seen → Covers seen items names →
        Covers seen (d.unfold chain b :: items) (name :: names)

namespace Covers

variable {d} {seen : List String} {items items' : List BuildRef} {names names' : List String}

/-- What covers names still does when more names were seen. -/
theorem mono (h : d.Covers seen items names) {seen' : List String} (hseen : seen ⊆ seen') :
    d.Covers seen' items names := by
  induction h with
  | nil => exact .nil
  | pass hname _ ih => exact .pass (hname.imp_left (@hseen _)) ih
  | tree hbuild hchain _ ih => exact .tree hbuild (List.Subset.trans hchain hseen) ih

/-- Two queues that cover names cover them one behind the other. -/
theorem append (h : d.Covers seen items names) (h' : d.Covers seen items' names') :
    d.Covers seen (items ++ items') (names ++ names') := by
  induction h with
  | nil => exact h'
  | pass hname _ ih => exact .pass hname ih
  | tree hbuild hchain _ ih => exact .tree hbuild hchain ih

end Covers

/-- The unfolded includes of a build cover their names once the chain above them was seen. -/
theorem covers_includedRefs {chain seen : List String} (hchain : chain ⊆ seen)
    (names : List String) : d.Covers seen (d.includedRefs chain names).value names := by
  induction names with
  | nil =>
    rw [includedRefs_nil]
    exact .nil
  | cons name rest ih =>
    by_cases hname : name ∈ chain
    · rw [includedRefs_of_mem d hname]
      exact .pass (.inl (hchain hname)) ih
    · cases hbuild : d.build? name with
      | none =>
        rw [includedRefs_of_none d hbuild]
        exact .pass (.inr hbuild) ih
      | some b =>
        rw [includedRefs_of_some d hname hbuild]
        exact .tree hbuild hchain ih

/-- The unfolded includes of the root build cover their names once the root was seen, also if the
root build includes itself. -/
theorem covers_rootIncludes (root : Build) :
    d.Covers [root.name] (d.rootIncludes root).value root.includedBuilds := by
  rw [rootIncludes_value]
  induction root.includedBuilds with
  | nil => exact .nil
  | cons name rest ih =>
    cases hbuild : d.build? name with
    | none =>
      rw [List.filterMap_cons_none hbuild]
      exact .pass (.inr hbuild) ih
    | some b =>
      rw [List.filterMap_cons_some hbuild]
      exact .tree hbuild (List.Subset.refl _) ih

/-- **The walk of the trees is a search of the includes.** If the names that were seen are the root
and the builds that were found, and the trees in the queue cover the names in the queue, the walk
finds the builds of the names that the search reaches, in the same order. -/
theorem map_name_walk {root : String} {seen : List String} {found items : List BuildRef}
    {names : List String}
    (hseen : ∀ name, name ∈ seen ↔ name = root ∨ name ∈ found.map BuildRef.name)
    (hcovers : d.Covers seen items names) :
    (BuildRef.walk root found items).map BuildRef.name =
      found.map BuildRef.name ++ d.breadthFirst seen names := by
  -- A tree whose name was seen is passed over whatever is below it, so only the chains of new names
  -- matter, and those were seen as well.
  fun_induction breadthFirst d seen names generalizing found items with
  | case1 seen =>
    cases hcovers with
    | nil => rw [BuildRef.walk_nil, List.append_nil]
  | case2 seen name names hname ih =>
    rw [List.contains_iff_mem] at hname
    cases hcovers with
    | pass _ hrest => exact ih hseen hrest
    | tree hbuild _ hrest =>
      rw [BuildRef.walk_of_seen]
      · exact ih hseen hrest
      · rwa [unfold_name, name_of_build? hbuild, ← hseen]
  | case3 seen name names hname hnone ih =>
    cases hcovers with
    | pass _ hrest => exact ih hseen hrest
    | tree hbuild _ _ => exact absurd hbuild (by simp [hnone])
  | case4 seen name names hname b hbuild ih =>
    rw [List.contains_iff_mem] at hname
    cases hcovers with
    | pass hpass _ =>
      rcases hpass with hmem | hnone
      · exact absurd hmem hname
      · exact absurd hbuild (by simp [hnone])
    | @tree _ _ _ chain b' hbuild' hchain hrest =>
      obtain rfl : b = b' := Option.some.inj (hbuild.symm.trans hbuild')
      obtain rfl : b.name = name := name_of_build? hbuild
      have hnew : ¬ ((d.unfold chain b).name = root ∨
          (d.unfold chain b).name ∈ found.map BuildRef.name) := by
        rwa [unfold_name, ← hseen]
      have hincluded : d.Covers (b.name :: seen) (d.unfold chain b).included b.includedBuilds :=
        d.covers_includedRefs (List.cons_subset_cons b.name hchain) b.includedBuilds
      have hseen' (name : String) : name ∈ b.name :: seen ↔
          name = root ∨ name ∈ (found ++ [d.unfold chain b]).map BuildRef.name := by
        rw [List.mem_cons, hseen, List.map_append, List.mem_append, List.map_singleton,
          List.mem_singleton, unfold_name]
        tauto
      have hcovers' := (hrest.mono (List.subset_cons_self b.name seen)).append hincluded
      rw [BuildRef.walk_of_new hnew, ih hseen' hcovers', List.map_append, List.append_assoc]
      rfl

end Dump

end CompositeBuild
