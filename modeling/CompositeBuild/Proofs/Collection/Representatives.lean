/-
# What a set keeps of equal elements

The order of a set may call different elements equal, as that of paths does for two spellings of one
path. Of the elements of a list that are equal to each other, the set of the list keeps one: the
last if each replaces those before it (`mem_ofListLast_iff`), and the first if each is added to
those before it (`mem_ofListFirst_iff`).
-/
import CompositeBuild.Proofs.Collection.SortedSet
import Mathlib.Data.List.Induction

namespace CompositeBuild

open Std

/-- Of the elements of `listed` that have one key, `kept` has just one, which is the chosen one, and
these are in strictly increasing order of their keys. -/
structure KeepsOne {α κ : Type} [Ord κ] [DecidableEq κ] (key : α → κ) (choose : List α → Option α)
    (listed kept : List α) : Prop where
  increasing : (kept.map key).Pairwise fun a b => compare a b = .lt
  mem_keys_iff : ∀ k, k ∈ kept.map key ↔ k ∈ listed.map key
  chosen : ∀ x ∈ kept, choose (listed.filter fun y => key y = key x) = some x

namespace SortedSet

variable {α : Type} [Ord α] [TransOrd α]

/-! ## Placing one element -/

/-- An element that is placed among others leaves those that are not equal to it in the order.  If
there is one that is, one of the two is chosen. -/
theorem mem_place_iff_of_increasing {choose : α → α → α} {new x : α} {xs : List α}
    (h : xs.Pairwise fun a b => compare a b = .lt) :
    x ∈ place choose new xs ↔
      x ∈ xs ∧ compare x new ≠ .eq ∨ (∃ old ∈ xs, compare old new = .eq ∧ x = choose old new) ∨
        x = new ∧ ∀ y ∈ xs, compare y new ≠ .eq := by
  induction xs with
  | nil => simp [place]
  | cons old rest ih =>
    obtain ⟨hold, hrest⟩ := List.pairwise_cons.1 h
    have hbehind (hle : compare new old ≠ .gt) : ∀ y ∈ rest, compare y new = .gt := fun y hy =>
      OrientedCmp.gt_of_lt (TransCmp.lt_of_isLE_of_lt (Ordering.isLE_iff_ne_gt.2 hle) (hold y hy))
    unfold place
    split
    · rename_i hlt
      have hy := hbehind (by rw [hlt]; decide)
      have hgt : compare old new = .gt := OrientedCmp.gt_of_lt hlt
      grind
    · rename_i heq
      have hy := hbehind (by rw [heq]; decide)
      have hsymm : compare old new = .eq := OrientedCmp.eq_symm heq
      grind
    · rename_i hgt
      have hlt : compare old new = .lt := OrientedCmp.lt_of_gt hgt
      have hrest' := ih hrest
      grind

/-! ## Adding the elements of a list -/

/-- An element that is added is in the set only if none was that is equal to it in the order. -/
theorem mem_insert_iff {s : SortedSet α} {a x : α} :
    x ∈ (s.insert a).toList ↔
      x ∈ s.toList ∨ x = a ∧ ∀ y ∈ s.toList, compare y a ≠ .eq := by
  show x ∈ place _ a s.toList ↔ _
  rw [mem_place_iff_of_increasing s.increasing]
  grind

/-- An element that replaces those that are equal to it in the order is in the set. -/
theorem mem_replace_iff {s : SortedSet α} {a x : α} :
    x ∈ (s.replace a).toList ↔ x = a ∨ x ∈ s.toList ∧ compare x a ≠ .eq := by
  show x ∈ place _ a s.toList ↔ _
  rw [mem_place_iff_of_increasing s.increasing]
  grind

/-- **The set of a list has of equal elements the last, if each replaces those before it.** -/
theorem mem_ofListLast_iff {as : List α} {x : α} :
    x ∈ (ofListLast as).toList ↔
      (as.filter fun a => compare a x = .eq).getLast? = some x := by
  induction as using List.reverseRecOn with
  | nil => simp [ofListLast, empty]
  | append_singleton as a ih =>
    have hstep : ofListLast (as ++ [a]) = (ofListLast as).replace a := List.foldl_concat ..
    rw [hstep, mem_replace_iff, ih, List.filter_append]
    by_cases heq : compare a x = .eq
    · have hsymm : compare x a = .eq := OrientedCmp.eq_symm heq
      simp [heq, hsymm, eq_comm]
    · have hne : compare x a ≠ .eq := fun h => heq (OrientedCmp.eq_symm h)
      have hx : x ≠ a := by
        rintro rfl
        exact heq ReflCmp.compare_self
      simp [heq, hne, hx]

theorem compare_eq_congr {x y : α} (h : compare x y = .eq) :
    (fun a => decide (compare a x = .eq)) = fun a => decide (compare a y = .eq) := by
  funext a
  rw [TransCmp.congr_right h]

/-- **The set of a list has of equal elements the first, if each is added to those before it.** -/
theorem mem_ofListFirst_iff {as : List α} {x : α} :
    x ∈ (ofListFirst as).toList ↔
      (as.filter fun a => compare a x = .eq).head? = some x := by
  rw [List.head?_filter]
  induction as using List.reverseRecOn generalizing x with
  | nil => simp [ofListFirst, insertAll, empty]
  | append_singleton as a ih =>
    have hstep : ofListFirst (as ++ [a]) = (ofListFirst as).insert a := List.foldl_concat ..
    -- The set has something that is equal to the new element exactly if the list before it has.
    have hfree : (∀ y ∈ (ofListFirst as).toList, compare y a ≠ .eq) ↔
        as.find? (fun y => compare y a = .eq) = none := by
      constructor
      · intro hnone
        by_contra hsome
        obtain ⟨z, hz⟩ := Option.ne_none_iff_exists'.1 hsome
        have hza : compare z a = .eq := by simpa using List.find?_some hz
        exact hnone z (ih.2 (by rwa [compare_eq_congr hza])) hza
      · intro hnone y hy hya
        have hfound := ih.1 hy
        rw [compare_eq_congr hya, hnone] at hfound
        exact absurd hfound (Option.some_ne_none _).symm
    rw [hstep, mem_insert_iff, ih, hfree, List.find?_append]
    by_cases heq : compare a x = .eq
    · rw [compare_eq_congr heq]
      cases as.find? fun y => compare y x = .eq <;> simp [heq, eq_comm]
    · have hx : x ≠ a := by
        rintro rfl
        exact heq ReflCmp.compare_self
      simp [heq, hx]

/-! ## Keys -/

section Chosen

variable {s : SortedSet α} {as : List α} {choose : List α → Option α}
  (hmem : ∀ xs x, choose xs = some x → x ∈ xs) (hsome : ∀ xs, choose xs = none → xs = [])
  (h : ∀ x, x ∈ s.toList ↔ choose (as.filter fun a => compare a x = .eq) = some x)
include hmem hsome h

/-- A set whose elements are chosen among the equal ones of a list has one for each element of
it. -/
theorem exists_compare_eq_of_mem {a : α} (ha : a ∈ as) : ∃ x ∈ s.toList, compare x a = .eq := by
  have hne : as.filter (fun y => compare y a = .eq) ≠ [] :=
    List.ne_nil_of_mem (List.mem_filter.2 ⟨ha, by simp⟩)
  obtain ⟨x, hx⟩ := Option.ne_none_iff_exists'.1 (mt (hsome _) hne)
  have hxa : compare x a = .eq := by simpa using (List.mem_filter.1 (hmem _ _ hx)).2
  exact ⟨x, (h x).2 (by rwa [compare_eq_congr hxa]), hxa⟩

/-- A set whose elements are chosen among the equal ones of a list keeps one element for each
key. -/
theorem keepsOne_of_mem_iff {κ : Type} [Ord κ] [LawfulEqOrd κ] [DecidableEq κ] {key : α → κ}
    (hkey : ∀ a b, compare a b = compare (key a) (key b)) :
    KeepsOne key choose as s.toList where
  increasing := List.pairwise_map.2 (s.increasing.imp fun hlt => hkey _ _ ▸ hlt)
  mem_keys_iff k := by
    rw [List.mem_map, List.mem_map]
    constructor
    · rintro ⟨x, hx, rfl⟩
      exact ⟨x, (List.mem_filter.1 (hmem _ _ ((h x).1 hx))).1, rfl⟩
    · rintro ⟨a, ha, rfl⟩
      obtain ⟨x, hx, hxa⟩ := exists_compare_eq_of_mem hmem hsome h ha
      exact ⟨x, hx, LawfulEqOrd.eq_of_compare (hkey x a ▸ hxa)⟩
  chosen x hx := by
    rw [← (h x).1 hx]
    congr 2
    funext y
    exact decide_eq_decide.2 (by rw [hkey, Std.compare_eq_iff_eq])

end Chosen

/-- The set of a list has an element that is equal in the order to each of the list. -/
theorem exists_compare_eq_of_mem_ofListLast {as : List α} {a : α} (ha : a ∈ as) :
    ∃ x ∈ (ofListLast as).toList, compare x a = .eq :=
  exists_compare_eq_of_mem (fun _ _ => List.mem_of_getLast?) (fun _ => List.getLast?_eq_none_iff.1)
    (fun _ => mem_ofListLast_iff) ha

section Keys

variable {κ : Type} [Ord κ] [LawfulEqOrd κ] [DecidableEq κ] {key : α → κ}
  (hkey : ∀ a b, compare a b = compare (key a) (key b))
include hkey

/-- The set of a list keeps the last element of each key, if each replaces those before it. -/
theorem keepsOne_ofListLast (as : List α) :
    KeepsOne key List.getLast? as (ofListLast as).toList :=
  keepsOne_of_mem_iff (fun _ _ => List.mem_of_getLast?) (fun _ => List.getLast?_eq_none_iff.1)
    (fun _ => mem_ofListLast_iff) hkey

/-- The set of a list keeps the first element of each key, if each is added to those before it. -/
theorem keepsOne_ofListFirst (as : List α) :
    KeepsOne key List.head? as (ofListFirst as).toList :=
  keepsOne_of_mem_iff (fun _ _ => List.mem_of_head?) (fun _ => List.head?_eq_none_iff.1)
    (fun _ => mem_ofListFirst_iff) hkey

end Keys

end SortedSet

end CompositeBuild
