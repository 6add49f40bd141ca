/-
# Builds that are reached

A build is reached from another if a chain of includes leads to it.  The search of the includes
finds the builds that are reached from the root build, and only these (`mem_breadthFirst_iff`), so
every build that is visited is reached or editable (`reached_or_editable_of_mem_namesToVisit`).
-/
import CompositeBuild.Proofs.Discovery.CapturedBuilds
import Mathlib.Logic.Relation

namespace CompositeBuild.Dump

variable (d : Dump)

/-! ## Chains of includes -/

/-- The build of the first name includes a build of the second. -/
def Includes (name included : String) : Prop :=
  ∃ b, d.build? name = some b ∧ included ∈ b.includedBuilds

/-- A chain of includes leads from the first name to the second. -/
def Reaches : String → String → Prop := Relation.ReflTransGen d.Includes

variable {d}

theorem Checked.isSome_build?_of_includes (c : Checked) {name included : String}
    (h : c.dump.Includes name included) : (c.dump.build? included).isSome := by
  obtain ⟨b, hbuild, hincluded⟩ := h
  exact c.known_included (List.mem_of_find?_eq_some hbuild) included hincluded

/-! ## What the search finds -/

variable {seen queue : List String} {name : String}

/-- Whatever the search finds is reached from a name in the queue. -/
theorem exists_reaches_of_mem_breadthFirst (h : name ∈ d.breadthFirst seen queue) :
    ∃ start ∈ queue, d.Reaches start name := by
  fun_induction breadthFirst d seen queue with
  | case1 => exact absurd h List.not_mem_nil
  | case2 seen next queue hseen ih | case3 seen next queue hseen hbuild ih =>
    obtain ⟨start, hstart, hreaches⟩ := ih h
    exact ⟨start, List.mem_cons_of_mem _ hstart, hreaches⟩
  | case4 seen next queue hseen b hbuild ih =>
    rcases List.mem_cons.1 h with rfl | h
    · exact ⟨name, List.mem_cons_self, .refl⟩
    · -- A chain from a build that joined the queue is longer by the build that included it.
      obtain ⟨start, hstart, hreaches⟩ := ih h
      rcases List.mem_append.1 hstart with hqueue | hincluded
      · exact ⟨start, List.mem_cons_of_mem _ hqueue, hreaches⟩
      · exact ⟨next, List.mem_cons_self, .head ⟨b, hbuild, hincluded⟩ hreaches⟩

omit d in
theorem mem_or_mem_cons {next : String} {found : List String}
    (h : name ∈ next :: seen ∨ name ∈ found) : name ∈ seen ∨ name ∈ next :: found := by
  rwa [List.mem_cons, or_assoc, or_left_comm, ← List.mem_cons] at h

/-- The search finds every name in the queue that was not seen and has a build. -/
theorem mem_breadthFirst_of_mem_queue (hqueue : name ∈ queue) (hknown : (d.build? name).isSome) :
    name ∈ seen ∨ name ∈ d.breadthFirst seen queue := by
  fun_induction breadthFirst d seen queue with
  | case1 => exact absurd hqueue List.not_mem_nil
  | case2 seen next queue hseen ih =>
    rcases List.mem_cons.1 hqueue with rfl | hqueue
    · exact .inl (List.contains_iff_mem.1 hseen)
    · exact ih hqueue
  | case3 seen next queue hseen hbuild ih =>
    rcases List.mem_cons.1 hqueue with rfl | hqueue
    · simp [hbuild] at hknown
    · exact ih hqueue
  | case4 seen next queue hseen b hbuild ih =>
    rcases List.mem_cons.1 hqueue with rfl | hqueue
    · exact .inr List.mem_cons_self
    · exact mem_or_mem_cons (ih (List.mem_append_left _ hqueue))

/-- The search finds what is included by what it finds, unless it was seen or has no build. -/
theorem mem_breadthFirst_of_includes {included : String} (hincludes : d.Includes name included)
    (hknown : (d.build? included).isSome) (h : name ∈ d.breadthFirst seen queue) :
    included ∈ seen ∨ included ∈ d.breadthFirst seen queue := by
  fun_induction breadthFirst d seen queue with
  | case1 => exact absurd h List.not_mem_nil
  | case2 seen next queue hseen ih => exact ih h
  | case3 seen next queue hseen hbuild ih => exact ih h
  | case4 seen next queue hseen b hbuild ih =>
    apply mem_or_mem_cons
    rcases List.mem_cons.1 h with rfl | h
    · obtain ⟨b', hbuild', hincluded⟩ := hincludes
      obtain rfl : b = b' := Option.some.inj (hbuild.symm.trans hbuild')
      exact mem_breadthFirst_of_mem_queue (List.mem_append_right _ hincluded) hknown
    · exact ih h

section Root

variable (c : Checked) {root : Build} (hroot : c.dump.build? c.rootBuild = some root)
include hroot

/-- **The search finds the builds that are reached.** Those are all but the root build. -/
theorem mem_breadthFirst_iff : name ∈ c.dump.breadthFirst [root.name] root.includedBuilds ↔
    name ≠ c.rootBuild ∧ c.dump.Reaches c.rootBuild name := by
  have hname : root.name = c.rootBuild := name_of_build? hroot
  constructor
  · intro h
    obtain ⟨start, hstart, hreaches⟩ := exists_reaches_of_mem_breadthFirst h
    refine ⟨?_, .head ⟨root, hroot, hstart⟩ hreaches⟩
    rintro rfl
    exact c.dump.not_mem_breadthFirst (List.mem_singleton.2 hname.symm) h
  · rintro ⟨hne, hreaches⟩
    -- Each step of the chain leads to the root build or to a build that is found.
    have hfound :
        name ∈ [root.name] ∨ name ∈ c.dump.breadthFirst [root.name] root.includedBuilds := by
      induction hreaches with
      | refl => exact .inl (List.mem_singleton.2 hname.symm)
      | @tail before name _ hincludes ih =>
        have hknown := c.isSome_build?_of_includes hincludes
        by_cases hbefore : before = c.rootBuild
        · obtain ⟨b, hbuild, hincluded⟩ := hincludes
          rw [hbefore] at hbuild
          obtain rfl : root = b := Option.some.inj (hroot.symm.trans hbuild)
          exact mem_breadthFirst_of_mem_queue hincluded hknown
        · rcases ih hbefore with hseen | hmem
          · exact absurd ((List.mem_singleton.1 hseen).trans hname) hbefore
          · exact mem_breadthFirst_of_includes hincludes hknown hmem
    exact hfound.resolve_left fun hseen => hne ((List.mem_singleton.1 hseen).trans hname)

/-- A build that is to be visited is reached from the root build or editable. -/
theorem reached_or_editable_of_mem_namesToVisit {strategy : DiscoveryStrategy}
    (h : name ∈ c.dump.namesToVisit strategy root) :
    c.dump.Reaches c.rootBuild name ∨ name ∈ c.dump.editableBuilds := by
  unfold namesToVisit at h
  split at h
  · exact .inl ((mem_breadthFirst_iff c hroot).1 h).2
  · rw [List.mem_eraseDups] at h
    exact .inr (List.mem_filter.1 h).1

end Root

end CompositeBuild.Dump
