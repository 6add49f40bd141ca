/-
# Listing maps in insertion order

Setting entries with distinct keys one after the other appends them (`foldl_putEntry`), so a map is
the map of its entries (`InsertionMap.ofList_entries`).  Changing the values of a map keeps its keys
and their order.
-/
import CompositeBuild.Collection.InsertionMap
import Mathlib.Data.List.Nodup

namespace CompositeBuild

variable {β γ : Type}

/-! ## Setting new keys -/

/-- A key that is not present comes last. -/
theorem putEntry_of_not_mem {key : String} (value : β) {xs : List (String × β)}
    (h : key ∉ xs.map (·.1)) : putEntry key value xs = xs ++ [(key, value)] := by
  induction xs with
  | nil => rfl
  | cons entry rest ih =>
    rw [List.map_cons, List.mem_cons, not_or] at h
    rw [putEntry, if_neg (Ne.symm h.1), ih h.2, List.cons_append]

/-- Setting entries behind some others appends them, if no key is set twice. -/
theorem foldl_putEntry {before entries : List (String × β)}
    (h : ((before ++ entries).map (·.1)).Nodup) :
    entries.foldl (fun xs entry => putEntry entry.1 entry.2 xs) before = before ++ entries := by
  induction entries generalizing before with
  | nil => exact (List.append_nil before).symm
  | cons entry rest ih =>
    have hmove : before ++ entry :: rest = (before ++ [entry]) ++ rest := by simp
    have hnew : entry.1 ∉ before.map (·.1) := by
      rw [List.map_append, List.nodup_append'] at h
      exact fun hmem => h.2.2 hmem List.mem_cons_self
    rw [List.foldl_cons, putEntry_of_not_mem _ hnew, hmove]
    exact ih (by rwa [← hmove])

/-- Setting entries with distinct keys one after the other gives them back. -/
theorem foldl_putEntry_nil {entries : List (String × β)} (h : (entries.map (·.1)).Nodup) :
    entries.foldl (fun xs entry => putEntry entry.1 entry.2 xs) [] = entries :=
  foldl_putEntry h

/-! ## Finding keys and changing values -/

theorem findEntry_map (f : β → γ) (entries : List (String × β)) (key : String) :
    findEntry (entries.map fun entry => (entry.1, f entry.2)) key =
      (findEntry entries key).map f := by
  unfold findEntry
  rw [List.find?_map, Option.map_map, Option.map_map]
  rfl

theorem findEntry_cons (entry : String × β) (rest : List (String × β)) (key : String) :
    findEntry (entry :: rest) key = if entry.1 = key then some entry.2 else findEntry rest key := by
  unfold findEntry
  by_cases h : entry.1 = key
  · rw [List.find?_cons_of_pos (by simpa using h), if_pos h, Option.map_some]
  · rw [List.find?_cons_of_neg (by simpa using h), if_neg h]

/-- A key that is set has the new value. -/
theorem findEntry_putEntry_self (key : String) (value : β) (entries : List (String × β)) :
    findEntry (putEntry key value entries) key = some value := by
  induction entries with
  | nil => exact (findEntry_cons _ _ _).trans (if_pos rfl)
  | cons entry rest ih =>
    rw [putEntry]
    split
    case isTrue => exact (findEntry_cons _ _ _).trans (if_pos rfl)
    case isFalse h => rw [findEntry_cons, if_neg h, ih]

/-- Any other key keeps its value. -/
theorem findEntry_putEntry_of_ne {key other : String} (h : other ≠ key) (value : β)
    (entries : List (String × β)) :
    findEntry (putEntry key value entries) other = findEntry entries other := by
  induction entries with
  | nil => exact (findEntry_cons _ _ _).trans (if_neg h.symm)
  | cons entry rest ih =>
    rw [putEntry]
    split
    case isTrue hkey =>
      rw [findEntry_cons, findEntry_cons, if_neg h.symm, if_neg (by rwa [hkey, eq_comm])]
    case isFalse => rw [findEntry_cons, findEntry_cons, ih]

theorem findEntry_filter_self (key : String) (entries : List (String × β)) :
    findEntry (entries.filter (·.1 ≠ key)) key = none := by
  unfold findEntry
  rw [Option.map_eq_none_iff, List.find?_eq_none]
  intro entry hentry
  simpa using (List.mem_filter.1 hentry).2

/-- Removing a key leaves any other its value. -/
theorem findEntry_filter_of_ne {key other : String} (h : other ≠ key)
    (entries : List (String × β)) :
    findEntry (entries.filter (·.1 ≠ key)) other = findEntry entries other := by
  induction entries with
  | nil => rfl
  | cons entry rest ih =>
    by_cases hkey : entry.1 = key
    · rw [List.filter_cons_of_neg (by simpa using hkey), ih, findEntry_cons,
        if_neg (by rwa [hkey, eq_comm])]
    · rw [List.filter_cons_of_pos (by simpa using hkey), findEntry_cons, findEntry_cons, ih]

theorem map_fst_map (f : β → γ) (entries : List (String × β)) :
    (entries.map fun entry => (entry.1, f entry.2)).map (·.1) = entries.map (·.1) := by
  rw [List.map_map]
  rfl

theorem map_eq_self_iff {f : β → β} {xs : List β} : xs.map f = xs ↔ ∀ x ∈ xs, f x = x := by
  have hid : xs.map f = xs.map id ↔ ∀ x ∈ xs, f x = x := List.map_inj_left
  rwa [List.map_id] at hid

theorem map_entries_eq_self_iff {f : β → β} {entries : List (String × β)} :
    (entries.map fun entry => (entry.1, f entry.2)) = entries ↔
      ∀ value ∈ entries.map (·.2), f value = value := by
  rw [map_eq_self_iff, List.forall_mem_map]
  simp [Prod.ext_iff]

namespace InsertionMap

/-- Setting the entries of a list one after the other, from a map on. -/
theorem entries_foldl_insert (m : InsertionMap β) (entries : List (String × β)) :
    (entries.foldl (fun m entry => m.insert entry.1 entry.2) m).entries =
      entries.foldl (fun xs entry => putEntry entry.1 entry.2 xs) m.entries := by
  induction entries generalizing m with
  | nil => rfl
  | cons entry rest ih => exact ih (m.insert entry.1 entry.2)

/-- Maps with the same entries are equal. -/
theorem eq_of_entries {m m' : InsertionMap β} (h : m.entries = m'.entries) : m = m' := by
  cases m
  cases m'
  cases h
  rfl

/-- A map is the map of its entries. -/
theorem ofList_entries (m : InsertionMap β) : ofList m.entries = m := by
  apply eq_of_entries
  unfold ofList
  rw [entries_foldl_insert]
  exact foldl_putEntry_nil m.distinct

/-- Changes the values of a map. -/
def mapValues (f : β → γ) (m : InsertionMap β) : InsertionMap γ :=
  ⟨m.entries.map fun entry => (entry.1, f entry.2), by rw [map_fst_map]; exact m.distinct⟩

theorem mapValues_eq_self_iff {f : β → β} {m : InsertionMap β} :
    m.mapValues f = m ↔ ∀ value ∈ m.entries.map (·.2), f value = value := by
  rw [← map_entries_eq_self_iff]
  exact ⟨fun h => congrArg entries h, fun h => eq_of_entries h⟩

end InsertionMap

end CompositeBuild
