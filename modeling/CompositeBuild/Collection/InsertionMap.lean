/-
# Maps in insertion order

Entries in the order in which their keys first appeared.  Setting a key that is present changes its
value and not its place.
-/

namespace CompositeBuild

/-! ## Entries with distinct keys -/

/-- Sets the value of a key: a key that is present keeps its place, a new one comes last. -/
def putEntry {β : Type} (key : String) (value : β) : List (String × β) → List (String × β)
  | [] => [(key, value)]
  | entry :: rest =>
    if entry.1 = key then (key, value) :: rest else entry :: putEntry key value rest

/-- The keys after setting one: the same keys, with a new one at the end. -/
theorem map_fst_putEntry {β : Type} (key : String) (value : β) (xs : List (String × β)) :
    (putEntry key value xs).map (·.1) =
      if key ∈ xs.map (·.1) then xs.map (·.1) else xs.map (·.1) ++ [key] := by
  induction xs with
  | nil => simp [putEntry]
  | cons entry rest ih =>
    by_cases h : entry.1 = key
    · simp [putEntry, h]
    · simp only [putEntry, h, if_false, List.map_cons, ih, List.mem_cons, Ne.symm h, false_or]
      split <;> simp

theorem nodup_putEntry {β : Type} {xs : List (String × β)} (h : (xs.map (·.1)).Nodup) (key : String)
    (value : β) : ((putEntry key value xs).map (·.1)).Nodup := by
  rw [map_fst_putEntry]
  split
  · exact h
  · exact List.nodup_append.2 ⟨h, by simp, by simp; grind⟩

/-- The entries after setting a key are the new one and some that were there. -/
theorem mem_putEntry {β : Type} {key : String} {value : β} {xs : List (String × β)}
    {entry : String × β} (h : entry ∈ putEntry key value xs) :
    entry = (key, value) ∨ entry ∈ xs := by
  induction xs with
  | nil => exact .inl (List.mem_singleton.1 h)
  | cons first rest ih =>
    rw [putEntry] at h
    split at h
    · exact (List.mem_cons.1 h).imp_right (List.mem_cons_of_mem _)
    · rcases List.mem_cons.1 h with rfl | h
      · exact .inr List.mem_cons_self
      · exact (ih h).imp_right (List.mem_cons_of_mem _)

/-- The value of a key in a list of entries, the first entry of the key counting. -/
def findEntry {β : Type} (entries : List (String × β)) (key : String) : Option β :=
  (entries.find? (·.1 = key)).map (·.2)

/-! ## Maps -/

/-- A map from names to values, in the order in which the names were first set. -/
structure InsertionMap (β : Type) where
  entries : List (String × β)
  distinct : (entries.map (·.1)).Nodup

namespace InsertionMap

variable {β : Type}

/-- The map without entries. -/
def empty : InsertionMap β := ⟨[], .nil⟩

instance : Inhabited (InsertionMap β) := ⟨empty⟩

/-- The value of a key. -/
def get? (m : InsertionMap β) (key : String) : Option β := findEntry m.entries key

/-- Sets the value of a key. -/
def insert (m : InsertionMap β) (key : String) (value : β) : InsertionMap β :=
  ⟨putEntry key value m.entries, nodup_putEntry m.distinct key value⟩

/-- The map of a list of entries: a repeated key keeps its first place and its last value. -/
def ofList (entries : List (String × β)) : InsertionMap β :=
  entries.foldl (fun m entry => m.insert entry.1 entry.2) empty

end InsertionMap

end CompositeBuild
