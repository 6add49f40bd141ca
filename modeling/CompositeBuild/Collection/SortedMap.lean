/-
# Sorted maps

A map kept as the list of its entries in strictly increasing order of the keys, so that equal maps
are equal lists and every listing of a map is in the order of its keys.
-/

namespace CompositeBuild

open Std

/-- A map from keys to values, kept in strictly increasing order of the keys. -/
structure SortedMap (κ β : Type) [Ord κ] where
  entries : List (κ × β)
  increasing : entries.Pairwise fun a b => compare a.1 b.1 = .lt

namespace SortedMap

variable {κ β : Type} [Ord κ]

/-! ## Setting a key in a sorted list of entries -/

/-- Sets the value of a key in a sorted list of entries. -/
def setEntry (key : κ) (value : β) : List (κ × β) → List (κ × β)
  | [] => [(key, value)]
  | entry :: rest =>
    match compare key entry.1 with
    | .lt => (key, value) :: entry :: rest
    | .eq => (key, value) :: rest
    | .gt => entry :: setEntry key value rest

/-- An entry after setting a key is the new one or was there before. -/
theorem mem_setEntry {key : κ} {value : β} {x : κ × β} {xs : List (κ × β)}
    (h : x ∈ setEntry key value xs) : x = (key, value) ∨ x ∈ xs := by
  induction xs with
  | nil => simpa [setEntry] using h
  | cons entry rest ih =>
    unfold setEntry at h
    split at h
    · simpa using h
    · rcases List.mem_cons.1 h with h | h <;> simp [h]
    · rcases List.mem_cons.1 h with rfl | h
      · simp
      · rcases ih h with h | h <;> simp [h]

/-- Setting a key keeps the entries in strictly increasing order of the keys. -/
theorem setEntry_increasing [TransOrd κ] (key : κ) (value : β) {xs : List (κ × β)}
    (h : xs.Pairwise fun a b => compare a.1 b.1 = .lt) :
    (setEntry key value xs).Pairwise fun a b => compare a.1 b.1 = .lt := by
  induction xs with
  | nil => simp [setEntry]
  | cons entry rest ih =>
    obtain ⟨below, sorted⟩ := List.pairwise_cons.1 h
    unfold setEntry
    split
    · rename_i lt
      refine List.pairwise_cons.2 ⟨fun x hx => ?_, h⟩
      rcases List.mem_cons.1 hx with rfl | hx
      · exact lt
      · exact TransCmp.lt_trans lt (below x hx)
    · rename_i eq
      exact List.pairwise_cons.2 ⟨fun x hx => TransCmp.lt_of_eq_of_lt eq (below x hx), sorted⟩
    · rename_i gt
      refine List.pairwise_cons.2 ⟨fun x hx => ?_, ih sorted⟩
      rcases mem_setEntry hx with rfl | hx
      · exact OrientedCmp.lt_of_gt gt
      · exact below x hx

/-! ## Maps -/

/-- The map without entries. -/
def empty : SortedMap κ β := ⟨[], .nil⟩

instance : Inhabited (SortedMap κ β) := ⟨empty⟩

instance [DecidableEq κ] [DecidableEq β] : DecidableEq (SortedMap κ β) := fun s t =>
  if h : s.entries = t.entries then
    .isTrue (by cases s; cases t; cases h; rfl)
  else
    .isFalse fun e => h (congrArg entries e)

/-- The number of entries. -/
def size (m : SortedMap κ β) : Nat := m.entries.length

/-- The keys, in increasing order. -/
def keys (m : SortedMap κ β) : List κ := m.entries.map (·.1)

/-- The value of a key. -/
def get? (m : SortedMap κ β) (key : κ) : Option β :=
  (m.entries.find? fun entry => compare key entry.1 == .eq).map (·.2)

/-- The map has an entry for the key. -/
def contains (m : SortedMap κ β) (key : κ) : Bool := (m.get? key).isSome

variable [TransOrd κ]

/-- Sets the value of a key, whether or not it has one. -/
def insert (m : SortedMap κ β) (key : κ) (value : β) : SortedMap κ β :=
  ⟨setEntry key value m.entries, setEntry_increasing key value m.increasing⟩

/-- Sets the keys of a list of entries one after the other; of equal keys the last counts. -/
def insertAll (m : SortedMap κ β) (entries : List (κ × β)) : SortedMap κ β :=
  entries.foldl (fun m entry => m.insert entry.1 entry.2) m

/-- The map of a list of entries; of equal keys the last counts. -/
def ofList (entries : List (κ × β)) : SortedMap κ β := empty.insertAll entries

end SortedMap

end CompositeBuild
