/-
# Walking the views of a composite

What both views have in common: a build is found if it is new and not the root, so discovery looks
at the names of builds only.  The walk of the included builds is described step by step
(`walk_of_seen`, `walk_of_new`), the editable builds by their names (`map_name_firstOfEach`), and
both keep whatever passes from a build to the builds that it includes (`forall_mem_discover`).
-/
import CompositeBuild.BuildGraph.Discovery
import Mathlib.Data.List.Basic

namespace CompositeBuild

namespace BuildRef

/-- The build without the builds that it includes. -/
def alone (b : BuildRef) : BuildRef := { b with included := [] }

theorem isNamedIn_iff {name : String} {found : List BuildRef} :
    isNamedIn name found = true ↔ name ∈ found.map BuildRef.name := by
  unfold isNamedIn
  simp only [List.any_eq_true, beq_iff_eq, List.mem_map]

/-- Which names are found does not depend on anything else in the builds. -/
theorem isNamedIn_map {f : BuildRef → BuildRef} (hname : ∀ b, (f b).name = b.name) (name : String)
    (found : List BuildRef) : isNamedIn name (found.map f) = isNamedIn name found := by
  unfold isNamedIn
  rw [List.any_map]
  congr 1
  funext b
  rw [Function.comp_apply, hname]

/-! ## Steps of the walk -/

section Steps

variable {root : String} {found queue : List BuildRef} {b : BuildRef}

theorem walk_nil : walk root found [] = found := by
  rw [walk]

/-- The walk passes over the root and over a build of a name that was found before. -/
theorem walk_of_seen (hb : b.name = root ∨ b.name ∈ found.map BuildRef.name) :
    walk root found (b :: queue) = walk root found queue := by
  rw [walk, if_pos (by rwa [isNamedIn_iff])]

/-- The walk finds any other build and follows the builds that it includes later. -/
theorem walk_of_new (hb : ¬ (b.name = root ∨ b.name ∈ found.map BuildRef.name)) :
    walk root found (b :: queue) = walk root (found ++ [b]) (queue ++ b.included) := by
  rw [walk, if_neg (by rwa [isNamedIn_iff])]

end Steps

/-! ## What the walk keeps -/

/-- What passes from a build to the builds that it includes holds of all builds that are found, if
it holds of those in the queue. -/
theorem forall_mem_walk {P : BuildRef → Prop} (hP : ∀ b, P b → ∀ c ∈ b.included, P c)
    (root : String) {found queue : List BuildRef} (hfound : ∀ b ∈ found, P b)
    (hqueue : ∀ b ∈ queue, P b) : ∀ b ∈ walk root found queue, P b := by
  fun_induction walk root found queue with
  | case1 found => exact hfound
  | case2 found b queue hseen ih => exact ih hfound (List.forall_mem_of_forall_mem_cons hqueue)
  | case3 found b queue hnew ih =>
    obtain ⟨hb, hrest⟩ := List.forall_mem_cons.1 hqueue
    apply ih
    · exact List.forall_mem_append.2 ⟨hfound, by simpa using hb⟩
    · exact List.forall_mem_append.2 ⟨hrest, hP b hb⟩

/-- A change of builds that keeps their names and reaches the builds that they include does not
change which builds are found, nor their order. -/
theorem walk_map {f : BuildRef → BuildRef} (hname : ∀ b, (f b).name = b.name)
    (hincluded : ∀ b, (f b).included = b.included.map f) (root : String)
    (found queue : List BuildRef) :
    walk root (found.map f) (queue.map f) = (walk root found queue).map f := by
  fun_induction walk root found queue with
  | case1 found => exact walk_nil
  | case2 found b queue hseen ih =>
    rw [List.map_cons, walk, hname, isNamedIn_map hname, if_pos hseen, ih]
  | case3 found b queue hnew ih =>
    rw [List.map_cons, walk, hname, isNamedIn_map hname, if_neg hnew, ← ih, hincluded,
      List.map_append, List.map_append, List.map_singleton]

/-! ## The flat list -/

/-- One step of taking the first build of each name other than the root's. -/
def takeNew (root : String) (found : List BuildRef) (b : BuildRef) : List BuildRef :=
  if b.name = root ∨ isNamedIn b.name found then found else found ++ [b]

/-- The first build of each name, taken step by step. -/
theorem firstOfEach_eq_foldl (root : String) (builds : List BuildRef) :
    firstOfEach root builds = builds.foldl (takeNew root) [] := rfl

/-- Taking new builds adds the first occurrences of the names that are new. -/
theorem map_name_foldl_takeNew (root : String) (found builds : List BuildRef) :
    (builds.foldl (takeNew root) found).map BuildRef.name =
      found.map BuildRef.name ++
        ((builds.map BuildRef.name).filter fun name =>
          name ≠ root ∧ name ∉ found.map BuildRef.name).eraseDups := by
  -- Each build that is taken is one more name that those behind it must not have.
  induction builds generalizing found with
  | nil => simp
  | cons b rest ih =>
    rw [List.foldl_cons, ih, List.map_cons]
    by_cases hb : b.name = root ∨ b.name ∈ found.map BuildRef.name
    · have hskip : takeNew root found b = found := by
        unfold takeNew
        rw [if_pos (by rwa [isNamedIn_iff])]
      have hfilter : ¬ (b.name ≠ root ∧ b.name ∉ found.map BuildRef.name) := by
        tauto
      rw [hskip, List.filter_cons_of_neg (by simpa using hfilter)]
    · have htake : takeNew root found b = found ++ [b] := by
        unfold takeNew
        rw [if_neg (by rwa [isNamedIn_iff])]
      have hfilter : b.name ≠ root ∧ b.name ∉ found.map BuildRef.name := by
        tauto
      rw [htake, List.filter_cons_of_pos (by simpa using hfilter), List.eraseDups_cons,
        List.filter_filter, List.map_append, List.map_singleton, List.append_assoc,
        List.singleton_append]
      congr 4
      funext name
      by_cases hname : name = b.name
      · simp [hname]
      · simp [hname]

theorem map_name_firstOfEach (root : String) (builds : List BuildRef) :
    (firstOfEach root builds).map BuildRef.name =
      ((builds.map BuildRef.name).filter (· ≠ root)).eraseDups := by
  rw [firstOfEach_eq_foldl, map_name_foldl_takeNew]
  simp

/-- What is found by taking new builds was found before or is in the list. -/
theorem foldl_takeNew_subset (root : String) (found builds : List BuildRef) :
    builds.foldl (takeNew root) found ⊆ found ++ builds := by
  induction builds generalizing found with
  | nil => simp
  | cons b rest ih =>
    rw [List.foldl_cons]
    refine List.Subset.trans (ih _) ?_
    unfold takeNew
    split
    · simp
    · simp

theorem firstOfEach_subset (root : String) (builds : List BuildRef) :
    firstOfEach root builds ⊆ builds :=
  foldl_takeNew_subset root [] builds

/-- A change of builds that keeps their names does not change which of them are first. -/
theorem firstOfEach_map {f : BuildRef → BuildRef} (hname : ∀ b, (f b).name = b.name)
    (root : String) (builds : List BuildRef) :
    firstOfEach root (builds.map f) = (firstOfEach root builds).map f := by
  have hstep (found : List BuildRef) (b : BuildRef) :
      takeNew root (found.map f) (f b) = (takeNew root found b).map f := by
    unfold takeNew
    rw [isNamedIn_map hname, hname]
    split
    · rfl
    · rw [List.map_append, List.map_singleton]
  have hfold (found : List BuildRef) :
      (builds.map f).foldl (takeNew root) (found.map f) =
        (builds.foldl (takeNew root) found).map f := by
    induction builds generalizing found with
    | nil => rfl
    | cons b rest ih => rw [List.map_cons, List.foldl_cons, List.foldl_cons, hstep, ih]
  exact hfold []

end BuildRef

namespace BuildGraph

/-! ## Discovery -/

/-- What passes from a build to the builds that it includes holds of all discovered builds, if it
holds of those that the views list. -/
theorem forall_mem_discover {P : BuildRef → Prop} (hP : ∀ b, P b → ∀ c ∈ b.included, P c)
    {g : BuildGraph} (hincluded : ∀ b ∈ g.includedBuilds, P b)
    (heditable : ∀ b ∈ g.editableBuilds, P b) (strategy : DiscoveryStrategy) (root : String) :
    ∀ b ∈ g.discover strategy root, P b := by
  unfold discover
  cases g.view strategy with
  | editable => exact fun b hb => heditable b (BuildRef.firstOfEach_subset root _ hb)
  | included => exact BuildRef.forall_mem_walk hP root (by simp) hincluded

/-- The names of the discovered builds: those that the walk of the included builds finds, or the
first occurrences of those of the editable builds if they are preferred and there are any. -/
theorem map_name_discover (g : BuildGraph) (strategy : DiscoveryStrategy) (root : String) :
    (g.discover strategy root).map BuildRef.name =
      if strategy = .legacy ∨ g.editableBuilds = [] then
        (BuildRef.walk root [] g.includedBuilds).map BuildRef.name
      else ((g.editableBuilds.map BuildRef.name).filter (· ≠ root)).eraseDups := by
  unfold discover view
  cases strategy with
  | legacy => simp
  | preferEditable =>
    by_cases hempty : g.editableBuilds = []
    · simp [hempty]
    · simp [hempty, BuildRef.map_name_firstOfEach]

/-- A change of builds that keeps their names and reaches the builds that they include does not
change which builds are discovered, nor their order. -/
theorem discover_map {f : BuildRef → BuildRef} (hname : ∀ b, (f b).name = b.name)
    (hincluded : ∀ b, (f b).included = b.included.map f) (g : BuildGraph)
    (strategy : DiscoveryStrategy) (root : String) :
    (⟨g.includedBuilds.map f, g.editableBuilds.map f⟩ : BuildGraph).discover strategy root =
      (g.discover strategy root).map f := by
  have hview : (⟨g.includedBuilds.map f, g.editableBuilds.map f⟩ : BuildGraph).view strategy =
      g.view strategy := by
    unfold view
    rw [List.isEmpty_map]
  unfold discover
  rw [hview]
  cases g.view strategy with
  | editable => exact BuildRef.firstOfEach_map hname root g.editableBuilds
  | included => exact BuildRef.walk_map hname hincluded root [] g.includedBuilds

end BuildGraph

end CompositeBuild
