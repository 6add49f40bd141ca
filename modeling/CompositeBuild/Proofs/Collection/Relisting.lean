/-
# Lists in another order

A list is listed anew if its elements are changed each for itself and then put into another order
(`ListedAnew`).  What is found by a key that tells the elements apart changes only as the element
does (`ListedAnew.rel_find?`), and a sorted set of elements that the order tells apart does not
depend on the order in which they were listed (`SortedSet.ofListLast_of_perm`).
-/
import CompositeBuild.Collection.InsertionMap
import CompositeBuild.Proofs.Collection.SortedMap
import Mathlib.Data.List.Forall2

namespace CompositeBuild

open Std

/-! ## Values that may be missing -/

section Optional

variable {α : Type} {R S : α → α → Prop} {x? y? : Option α}

/-- Two related values are both missing, or both are there. -/
theorem rel_cases (h : Option.Rel R x? y?) :
    x? = none ∧ y? = none ∨ ∃ x y, x? = some x ∧ y? = some y ∧ R x y := by
  cases h with
  | none => exact .inl ⟨rfl, rfl⟩
  | some hxy => exact .inr ⟨_, _, rfl, rfl, hxy⟩

/-- Related values are related in a second way if they are when they are there. -/
theorem rel_imp (h : Option.Rel R x? y?) (hS : ∀ x ∈ x?, ∀ y, R x y → S x y) :
    Option.Rel S x? y? := by
  cases h with
  | none => exact .none
  | some hxy => exact .some (hS _ rfl _ hxy)

end Optional

/-! ## Finding by a key -/

section Find

variable {α κ : Type} {key : α → κ} {xs ys : List α}

theorem map_eq_of_forall₂ {R : α → α → Prop} (hR : ∀ x y, R x y → key x = key y)
    (h : List.Forall₂ R xs ys) : xs.map key = ys.map key := by
  induction h with
  | nil => rfl
  | cons hxy _ ih => rw [List.map_cons, List.map_cons, hR _ _ hxy, ih]

variable [DecidableEq κ]

/-- Among elements with different keys, what is found by its key does not depend on their order. -/
theorem find?_eq_of_perm (h : xs.Perm ys) (hkeys : (xs.map key).Nodup) (k : κ) :
    xs.find? (fun x => key x = k) = ys.find? (fun y => key y = k) := by
  have hkeys' : (ys.map key).Nodup := (h.map key).nodup_iff.1 hkeys
  ext x
  rw [find?_eq_some_iff_of_nodup hkeys, find?_eq_some_iff_of_nodup hkeys', h.mem_iff]

/-- What is found by its key in two lists of related elements with the same keys is related. -/
theorem rel_find?_of_forall₂ {R : α → α → Prop} (hR : ∀ x y, R x y → key x = key y)
    (h : List.Forall₂ R xs ys) (k : κ) :
    Option.Rel (fun x y => x ∈ xs ∧ R x y) (xs.find? fun x => key x = k)
      (ys.find? fun y => key y = k) := by
  have hrel : Option.Rel R (xs.find? fun x => key x = k) (ys.find? fun y => key y = k) := by
    induction h with
    | nil => exact .none
    | @cons x y xs ys hxy _ ih =>
      by_cases hx : key x = k
      · rw [List.find?_cons_of_pos (by simpa using hx),
          List.find?_cons_of_pos (by simpa [hR x y hxy] using hx)]
        exact .some hxy
      · rw [List.find?_cons_of_neg (by simpa using hx),
          List.find?_cons_of_neg (by simpa [hR x y hxy] using hx)]
        exact ih
  exact rel_imp hrel fun x hx _ hxy => ⟨List.mem_of_find?_eq_some hx, hxy⟩

end Find

/-- The elements of a list are related to those of another in some order. -/
def ListedAnew {α : Type} (R : α → α → Prop) (xs ys : List α) : Prop :=
  ∃ zs, List.Forall₂ R xs zs ∧ zs.Perm ys

namespace ListedAnew

variable {α κ : Type} {R : α → α → Prop} {xs ys : List α}

theorem eq_nil_iff (h : ListedAnew R xs ys) : xs = [] ↔ ys = [] := by
  obtain ⟨zs, hzs, hperm⟩ := h
  rw [← List.length_eq_zero_iff, ← List.length_eq_zero_iff, hzs.length_eq, hperm.length_eq]

variable {key : α → κ} (hR : ∀ x y, R x y → key x = key y)
include hR

/-- The keys are listed in another order. -/
theorem perm_map (h : ListedAnew R xs ys) : (xs.map key).Perm (ys.map key) := by
  obtain ⟨zs, hzs, hperm⟩ := h
  rw [map_eq_of_forall₂ hR hzs]
  exact hperm.map key

/-- What is found by a key that tells the elements apart is related. -/
theorem rel_find? [DecidableEq κ] (h : ListedAnew R xs ys) (hkeys : (xs.map key).Nodup) (k : κ) :
    Option.Rel (fun x y => x ∈ xs ∧ R x y) (xs.find? fun x => key x = k)
      (ys.find? fun y => key y = k) := by
  obtain ⟨zs, hzs, hperm⟩ := h
  rw [map_eq_of_forall₂ hR hzs] at hkeys
  rw [← find?_eq_of_perm hperm hkeys]
  exact rel_find?_of_forall₂ hR hzs k

end ListedAnew

/-! ## Entries -/

section Entries

variable {β : Type}

/-- The values that are found in a map are those of its entries. -/
theorem InsertionMap.get?_eq_some_iff {m : InsertionMap β} {key : String} {value : β} :
    m.get? key = some value ↔ (key, value) ∈ m.entries := by
  unfold get? findEntry
  rw [Option.map_eq_some_iff]
  constructor
  · rintro ⟨⟨_, _⟩, hfound, rfl⟩
    obtain ⟨hmem, rfl⟩ := (find?_eq_some_iff_of_nodup m.distinct).1 hfound
    exact hmem
  · exact fun hmem => ⟨_, (find?_eq_some_iff_of_nodup m.distinct).2 ⟨hmem, rfl⟩, rfl⟩

theorem findEntry_eq_of_perm {xs ys : List (String × β)} (h : xs.Perm ys)
    (hkeys : (xs.map (·.1)).Nodup) (key : String) : findEntry xs key = findEntry ys key := by
  unfold findEntry
  rw [find?_eq_of_perm h hkeys]

/-- Two entries have the same key and related values. -/
def RelatedEntries (R : β → β → Prop) (x y : String × β) : Prop := x.1 = y.1 ∧ R x.2 y.2

/-- The values of a key are related in two maps whose entries are listed anew. -/
theorem InsertionMap.rel_get? {R : β → β → Prop} {m₁ m₂ : InsertionMap β}
    (h : ListedAnew (RelatedEntries R) m₁.entries m₂.entries) (key : String) :
    Option.Rel (fun x y => x ∈ m₁.entries.map (·.2) ∧ R x y) (m₁.get? key) (m₂.get? key) := by
  unfold get? findEntry
  obtain ⟨hx, hy⟩ | ⟨x, y, hx, hy, hmem, -, hxy⟩ :=
    rel_cases (h.rel_find? (fun _ _ hxy => hxy.1) m₁.distinct key)
  · rw [hx, hy]
    exact .none
  · rw [hx, hy]
    exact .some ⟨List.mem_map_of_mem hmem, hxy⟩

end Entries

/-! ## Sorted sets -/

namespace SortedSet

variable {α : Type} [Ord α]

/-- Sets that list the same elements are equal. -/
theorem eq_of_toList {s t : SortedSet α} (h : s.toList = t.toList) : s = t := by
  cases s
  cases t
  cases h
  rfl

/-- A list with an element that is placed has this element and those it had before, if none of them
is equal to it in the order. -/
theorem perm_place (choose : α → α → α) {new : α} {xs : List α}
    (h : ∀ x ∈ xs, compare new x ≠ .eq) : (place choose new xs).Perm (new :: xs) := by
  induction xs with
  | nil => exact .refl _
  | cons old rest ih =>
    obtain ⟨hold, hrest⟩ := List.forall_mem_cons.1 h
    unfold place
    split
    · exact .refl _
    · rename_i heq
      exact absurd heq hold
    · exact ((ih hrest).cons old).trans (.swap new old rest)

theorem compare_ne_eq_symm [OrientedOrd α] {a b : α} (h : compare a b ≠ .eq) : compare b a ≠ .eq :=
  fun heq => h (OrientedCmp.eq_symm heq)

variable [TransOrd α]

/-- Replacing elements of a set with those of a list adds these, if the order tells all of them
apart. -/
theorem perm_foldl_replace {s : SortedSet α} {as : List α}
    (h : (s.toList ++ as).Pairwise fun a b => compare a b ≠ .eq) :
    (as.foldl replace s).toList.Perm (s.toList ++ as) := by
  induction as generalizing s with
  | nil => simp
  | cons a rest ih =>
    -- The element is equal to none of the set in the order, so it is added and replaces nothing.
    have hplace : (s.replace a).toList.Perm (a :: s.toList) := by
      refine perm_place _ fun x hx => compare_ne_eq_symm ?_
      exact (List.pairwise_append.1 h).2.2 x hx a List.mem_cons_self
    have hmove : ((s.replace a).toList ++ rest).Perm (s.toList ++ a :: rest) :=
      (hplace.append_right rest).trans List.perm_middle.symm
    exact (ih ((hmove.pairwise_iff compare_ne_eq_symm).2 h)).trans hmove

theorem perm_ofListLast {as : List α} (h : as.Pairwise fun a b => compare a b ≠ .eq) :
    (ofListLast as).toList.Perm as :=
  perm_foldl_replace (s := empty) h

/-- **The set of elements that the order tells apart does not depend on how they are listed.** -/
theorem ofListLast_of_perm {as bs : List α} (hperm : as.Perm bs)
    (h : as.Pairwise fun a b => compare a b ≠ .eq) : ofListLast as = ofListLast bs := by
  have hbs := perm_ofListLast ((hperm.pairwise_iff compare_ne_eq_symm).1 h)
  apply eq_of_toList
  refine toList_eq_of_mem_iff (ofListLast bs).increasing fun x => ?_
  rw [(perm_ofListLast h).mem_iff, hbs.mem_iff, hperm.mem_iff]

end SortedSet

end CompositeBuild
