/-
# Sorted sets

A set kept as the list of its elements in strictly increasing order.  The order may call two
different elements equal, as the order of file paths does for two spellings of one path; such a set
holds only one of them, and `insert` and `replace` differ in which one stays.
-/

namespace CompositeBuild

open Std

/-- A set of elements, kept in strictly increasing order. -/
structure SortedSet (α : Type) [Ord α] where
  toList : List α
  increasing : toList.Pairwise fun a b => compare a b = .lt

namespace SortedSet

variable {α : Type} [Ord α]

/-! ## Placing an element into a sorted list -/

/-- Puts `new` into its place in a sorted list.  If the list holds an element that is equal to it in
the order, `choose` decides which of the two is kept. -/
def place (choose : α → α → α) (new : α) : List α → List α
  | [] => [new]
  | old :: rest =>
    match compare new old with
    | .lt => new :: old :: rest
    | .eq => choose old new :: rest
    | .gt => old :: place choose new rest

/-- What is in the list after placing `new` was there before or is `new`. -/
theorem mem_place {choose : α → α → α} (either : ∀ a b, choose a b = a ∨ choose a b = b)
    {new x : α} {xs : List α} (h : x ∈ place choose new xs) : x = new ∨ x ∈ xs := by
  induction xs with
  | nil => simpa [place] using h
  | cons old rest ih =>
    unfold place at h
    split at h
    · simpa using h
    · rcases either old new with e | e <;> rw [e] at h <;> simp at h <;> grind
    · rcases List.mem_cons.1 h with rfl | h
      · simp
      · rcases ih h with rfl | h <;> simp [*]

/-- Placing keeps the list strictly increasing. -/
theorem place_increasing [TransOrd α] {choose : α → α → α}
    (either : ∀ a b, choose a b = a ∨ choose a b = b) (new : α) {xs : List α}
    (h : xs.Pairwise fun a b => compare a b = .lt) :
    (place choose new xs).Pairwise fun a b => compare a b = .lt := by
  induction xs with
  | nil => simp [place]
  | cons old rest ih =>
    obtain ⟨below, sorted⟩ := List.pairwise_cons.1 h
    unfold place
    split
    · rename_i lt
      refine List.pairwise_cons.2 ⟨fun x hx => ?_, h⟩
      rcases List.mem_cons.1 hx with rfl | hx
      · exact lt
      · exact TransCmp.lt_trans lt (below x hx)
    · rename_i eq
      refine List.pairwise_cons.2 ⟨fun x hx => ?_, sorted⟩
      rcases either old new with e | e <;> rw [e]
      · exact below x hx
      · exact TransCmp.lt_of_eq_of_lt eq (below x hx)
    · rename_i gt
      refine List.pairwise_cons.2 ⟨fun x hx => ?_, ih sorted⟩
      rcases mem_place either hx with rfl | hx
      · exact OrientedCmp.lt_of_gt gt
      · exact below x hx

/-! ## Sets -/

/-- The set without elements. -/
def empty : SortedSet α := ⟨[], .nil⟩

instance : Inhabited (SortedSet α) := ⟨empty⟩

instance : Membership α (SortedSet α) := ⟨fun s a => a ∈ s.toList⟩

instance [DecidableEq α] : DecidableEq (SortedSet α) := fun s t =>
  if h : s.toList = t.toList then
    .isTrue (by cases s; cases t; cases h; rfl)
  else
    .isFalse fun e => h (congrArg toList e)

/-- Sets are compared element by element, a set that ends first being the smaller. -/
instance : Ord (SortedSet α) := ⟨compareOn toList⟩

instance [TransOrd α] : TransOrd (SortedSet α) :=
  inferInstanceAs (TransCmp (compareOn toList))

/-- The number of elements. -/
def size (s : SortedSet α) : Nat := s.toList.length

variable [TransOrd α]

/-- Adds an element.  An element that is equal to it in the order stays as it is. -/
def insert (s : SortedSet α) (a : α) : SortedSet α :=
  ⟨place (fun old _ => old) a s.toList, place_increasing (fun _ _ => .inl rfl) a s.increasing⟩

/-- Adds an element in place of one that is equal to it in the order. -/
def replace (s : SortedSet α) (a : α) : SortedSet α :=
  ⟨place (fun _ new => new) a s.toList, place_increasing (fun _ _ => .inr rfl) a s.increasing⟩

/-- Adds the elements of a list one after the other; of equal ones the first stays. -/
def insertAll (s : SortedSet α) (as : List α) : SortedSet α := as.foldl insert s

/-- The set of the elements of a list; of equal ones the first is kept. -/
def ofListFirst (as : List α) : SortedSet α := empty.insertAll as

/-- The set of the elements of a list; of equal ones the last is kept. -/
def ofListLast (as : List α) : SortedSet α := as.foldl replace empty

end SortedSet

end CompositeBuild
