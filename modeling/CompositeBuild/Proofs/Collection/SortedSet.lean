/-
# Listing sorted sets

A sorted set is determined by its elements.  Adding the elements of a set one after the other in
their order gives the set back, each in the spelling that the set holds (`ofListFirst_toList`); and
where the order tells all elements apart, a set lists the elements of a list in their order
(`toList_eq_of_mem_iff`).
-/
import CompositeBuild.Collection.SortedSet
import Mathlib.Data.List.Sort

namespace CompositeBuild

open Std

/-- Two lists in strictly increasing order of their keys with the same elements are equal. -/
theorem eq_of_increasing_of_mem_iff {α κ : Type} [Ord κ] [TransOrd κ] (key : α → κ) {xs ys : List α}
    (hxs : xs.Pairwise fun a b => compare (key a) (key b) = .lt)
    (hys : ys.Pairwise fun a b => compare (key a) (key b) = .lt) (h : ∀ x, x ∈ xs ↔ x ∈ ys) :
    xs = ys := by
  have hirrefl : Std.Irrefl fun a b : α => compare (key a) (key b) = .lt :=
    ⟨fun a hlt => by simp at hlt⟩
  have hantisymm : Std.Antisymm fun a b : α => compare (key a) (key b) = .lt :=
    ⟨fun a b hlt hgt => absurd (OrientedCmp.gt_of_lt hlt) (by rw [hgt]; decide)⟩
  exact hxs.eq_of_mem_iff hys h

namespace SortedSet

variable {α : Type} [Ord α]

/-! ## Placing one element -/

/-- An element behind all elements of a list is placed at the end. -/
theorem place_of_forall_lt [OrientedOrd α] (choose : α → α → α) {new : α} {xs : List α}
    (h : ∀ x ∈ xs, compare x new = .lt) : place choose new xs = xs ++ [new] := by
  induction xs with
  | nil => rfl
  | cons old rest ih =>
    obtain ⟨hold, hrest⟩ := List.forall_mem_cons.1 h
    unfold place
    rw [OrientedCmp.gt_of_lt hold, ih hrest]
    rfl

/-- Placing an element adds it to the elements of the list. -/
theorem mem_place_iff [LawfulEqOrd α] {choose : α → α → α}
    (either : ∀ a b, choose a b = a ∨ choose a b = b) {new x : α} {xs : List α} :
    x ∈ place choose new xs ↔ x = new ∨ x ∈ xs := by
  refine ⟨mem_place either, ?_⟩
  induction xs with
  | nil => simp [place]
  | cons old rest ih =>
    unfold place
    split
    · simp
    · rename_i heq
      -- The order tells all elements apart, so it does not matter which of the two is kept.
      obtain rfl := LawfulEqOrd.eq_of_compare heq
      have hchoose : choose new new = new := (either new new).elim id id
      simp [hchoose]
    · rw [List.mem_cons, List.mem_cons]
      tauto

/-! ## Adding the elements of a list -/

variable [TransOrd α]

/-- Adding elements that are listed in their order behind those of a set appends them. -/
theorem toList_insertAll_of_increasing (s : SortedSet α) {as : List α}
    (h : (s.toList ++ as).Pairwise fun a b => compare a b = .lt) :
    (s.insertAll as).toList = s.toList ++ as := by
  induction as generalizing s with
  | nil => exact (List.append_nil _).symm
  | cons a rest ih =>
    have hlast : ∀ x ∈ s.toList, compare x a = .lt := fun x hx =>
      (List.pairwise_append.1 h).2.2 x hx a List.mem_cons_self
    have hinsert : (s.insert a).toList = s.toList ++ [a] := place_of_forall_lt _ hlast
    have hmove : (s.insert a).toList ++ rest = s.toList ++ a :: rest := by
      rw [hinsert, List.append_assoc, List.singleton_append]
    show ((s.insert a).insertAll rest).toList = _
    rw [ih (s.insert a) (by rwa [hmove]), hmove]

/-- A set is the set of its elements, in the spellings that it holds. -/
theorem ofListFirst_toList (s : SortedSet α) : ofListFirst s.toList = s := by
  have hlist : (ofListFirst s.toList).toList = s.toList :=
    toList_insertAll_of_increasing empty s.increasing
  cases hset : ofListFirst s.toList
  cases s
  rw [hset] at hlist
  cases hlist
  rfl

section Membership

variable [LawfulEqOrd α]

/-- Adding the elements of a list adds them to the elements of the set. -/
theorem mem_insertAll {s : SortedSet α} {as : List α} {x : α} :
    x ∈ (s.insertAll as).toList ↔ x ∈ as ∨ x ∈ s.toList := by
  induction as generalizing s with
  | nil => simp [insertAll]
  | cons a rest ih =>
    have hinsert : x ∈ (s.insert a).toList ↔ x = a ∨ x ∈ s.toList :=
      mem_place_iff fun _ _ => .inl rfl
    show x ∈ ((s.insert a).insertAll rest).toList ↔ _
    rw [ih, hinsert, List.mem_cons]
    tauto

theorem mem_ofListFirst {as : List α} {x : α} : x ∈ (ofListFirst as).toList ↔ x ∈ as := by
  unfold ofListFirst
  rw [mem_insertAll]
  simp [empty]

end Membership

theorem toList_eq_of_mem_iff {s : SortedSet α} {as : List α}
    (has : as.Pairwise fun a b => compare a b = .lt) (h : ∀ x, x ∈ s.toList ↔ x ∈ as) :
    s.toList = as :=
  eq_of_increasing_of_mem_iff id s.increasing has h

end SortedSet

end CompositeBuild
