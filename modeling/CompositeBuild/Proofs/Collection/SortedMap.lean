/-
# Looking up keys in sorted maps

What a sorted map holds after keys have been set: setting a key changes what is found under that key
and nothing else (`get?_insert`), of the entries of a list that set one key the last counts
(`get?_insertAll`), and two maps in which the same keys are found list them alike
(`keys_eq_of_mem_iff`).  Setting the entries of a map one after the other gives the map back
(`ofList_entries`), and entries of different keys give one map in any order (`ofList_of_perm`).
-/
import CompositeBuild.Collection.SortedMap
import CompositeBuild.Proofs.Collection.SortedSet

namespace CompositeBuild

open Std

/-- Among elements with different keys, those that are found by their key are all. -/
theorem find?_eq_some_iff_of_nodup {α κ : Type} [DecidableEq κ] {key : α → κ} {xs : List α}
    (h : (xs.map key).Nodup) {k : κ} {x : α} :
    xs.find? (fun x => key x = k) = some x ↔ x ∈ xs ∧ key x = k := by
  constructor
  · exact fun hx => ⟨List.mem_of_find?_eq_some hx, by simpa using List.find?_some hx⟩
  · rintro ⟨hx, rfl⟩
    have hsome : (xs.find? fun y => key y = key x).isSome := List.find?_isSome.2 ⟨x, hx, by simp⟩
    obtain ⟨y, hy⟩ := Option.isSome_iff_exists.1 hsome
    have hkey : key y = key x := by simpa using List.find?_some hy
    rw [hy, List.inj_on_of_nodup_map h (List.mem_of_find?_eq_some hy) hx hkey]

namespace SortedMap

variable {κ β γ : Type} [Ord κ]

@[simp] theorem get?_empty (key : κ) : (empty : SortedMap κ β).get? key = none := rfl

/-! ## Finding a key -/

section Lookup

variable [LawfulEqOrd κ] [DecidableEq κ]

/-- The value of a key is that of the first entry with the key. -/
theorem get?_eq_find? (m : SortedMap κ β) (key : κ) :
    m.get? key = (m.entries.find? fun entry => entry.1 = key).map (·.2) := by
  unfold get?
  congr 2
  funext entry
  rw [beq_eq_decide, decide_eq_decide, Std.compare_eq_iff_eq]
  exact eq_comm

theorem mem_keys_iff {m : SortedMap κ β} {key : κ} : key ∈ m.keys ↔ m.contains key = true := by
  unfold contains keys
  rw [get?_eq_find?, Option.isSome_map, List.find?_isSome, List.mem_map]
  simp only [decide_eq_true_eq]

/-- Setting a key in a list of entries changes what is found under that key and nothing else. -/
theorem find?_setEntry (key key' : κ) (value : β) (xs : List (κ × β)) :
    ((setEntry key value xs).find? fun entry => entry.1 = key').map (·.2) =
      if key' = key then some value else (xs.find? fun entry => entry.1 = key').map (·.2) := by
  induction xs with
  | nil =>
    by_cases h : key' = key
    · simp [setEntry, h]
    · simp [setEntry, h, Ne.symm h]
  | cons entry rest ih =>
    by_cases h : key' = key
    · subst h
      -- The key goes before the first entry, replaces it, or goes somewhere behind it.
      unfold setEntry
      split
      · simp
      · simp
      · rename_i hgt
        have hne : entry.1 ≠ key' := by
          intro heq
          simp [heq] at hgt
        simpa [hne] using ih
    · unfold setEntry
      split
      · simp [h, Ne.symm h]
      · rename_i heq
        have hentry : key = entry.1 := LawfulEqOrd.eq_of_compare heq
        simp [h, Ne.symm h, ← hentry]
      · by_cases hentry : entry.1 = key'
        · simp [h, hentry]
        · simpa [h, hentry] using ih

end Lookup

/-! ## Setting keys -/

section Insert

variable [TransOrd κ]

theorem insertAll_append (m : SortedMap κ β) (xs ys : List (κ × β)) :
    m.insertAll (xs ++ ys) = (m.insertAll xs).insertAll ys :=
  List.foldl_append

variable [LawfulEqOrd κ] [DecidableEq κ]

theorem get?_insert (m : SortedMap κ β) (key key' : κ) (value : β) :
    (m.insert key value).get? key' = if key' = key then some value else m.get? key' := by
  rw [get?_eq_find?, get?_eq_find?]
  exact find?_setEntry key key' value m.entries

theorem mem_keys_insert {m : SortedMap κ β} {key key' : κ} {value : β} :
    key' ∈ (m.insert key value).keys ↔ key' = key ∨ key' ∈ m.keys := by
  rw [mem_keys_iff, mem_keys_iff, contains, contains, get?_insert]
  by_cases h : key' = key
  · simp [h]
  · simp [h]

/-- Of the entries of a list that set one key the last counts; a key that none of them sets keeps
its value. -/
theorem get?_insertAll (m : SortedMap κ β) (entries : List (κ × β)) (key : κ) :
    (m.insertAll entries).get? key =
      ((entries.filter fun entry => entry.1 = key).getLast?.map (·.2)).or (m.get? key) := by
  induction entries generalizing m with
  | nil => rfl
  | cons entry rest ih =>
    show ((m.insert entry.1 entry.2).insertAll rest).get? key = _
    rw [ih, get?_insert]
    by_cases h : entry.1 = key
    · simp only [h, List.filter_cons, decide_true, if_true]
      rw [List.getLast?_cons]
      cases (rest.filter fun entry => entry.1 = key).getLast? <;> simp
    · simp only [h, Ne.symm h, List.filter_cons, decide_false, if_false, Bool.false_eq_true]

theorem get?_ofList (entries : List (κ × β)) (key : κ) :
    (ofList entries).get? key =
      (entries.filter fun entry => entry.1 = key).getLast?.map (·.2) := by
  unfold ofList
  rw [get?_insertAll, get?_empty, Option.or_none]

/-- Setting the entries of a list adds their keys. -/
theorem mem_keys_insertAll {m : SortedMap κ β} {entries : List (κ × β)} {key : κ} :
    key ∈ (m.insertAll entries).keys ↔ key ∈ entries.map (·.1) ∨ key ∈ m.keys := by
  induction entries generalizing m with
  | nil => simp [insertAll]
  | cons entry rest ih =>
    show key ∈ ((m.insert entry.1 entry.2).insertAll rest).keys ↔ _
    rw [ih, mem_keys_insert, List.map_cons, List.mem_cons]
    tauto

end Insert

/-! ## Keys as a list -/

/-- The keys are listed in strictly increasing order. -/
theorem keys_increasing (m : SortedMap κ β) :
    m.keys.Pairwise fun a b => compare a b = .lt := by
  unfold keys
  rw [List.pairwise_map]
  exact m.increasing

theorem keys_eq_of_mem_iff [TransOrd κ] {m₁ : SortedMap κ β} {m₂ : SortedMap κ γ}
    (h : ∀ key, key ∈ m₁.keys ↔ key ∈ m₂.keys) : m₁.keys = m₂.keys :=
  eq_of_increasing_of_mem_iff id m₁.keys_increasing m₂.keys_increasing h

/-! ## Listing a map -/

section Entries

/-- Setting a key behind all keys of a list appends its entry. -/
theorem setEntry_of_forall_lt [OrientedOrd κ] {key : κ} (value : β) {xs : List (κ × β)}
    (h : ∀ x ∈ xs, compare x.1 key = .lt) : setEntry key value xs = xs ++ [(key, value)] := by
  induction xs with
  | nil => rfl
  | cons entry rest ih =>
    obtain ⟨hentry, hrest⟩ := List.forall_mem_cons.1 h
    unfold setEntry
    rw [OrientedCmp.gt_of_lt hentry, ih hrest]
    rfl

variable [TransOrd κ]

/-- Setting entries that are listed in the order of their keys behind those of a map appends
them. -/
theorem entries_insertAll_of_increasing (m : SortedMap κ β) {entries : List (κ × β)}
    (h : (m.entries ++ entries).Pairwise fun a b => compare a.1 b.1 = .lt) :
    (m.insertAll entries).entries = m.entries ++ entries := by
  induction entries generalizing m with
  | nil => exact (List.append_nil _).symm
  | cons entry rest ih =>
    have hlast : ∀ x ∈ m.entries, compare x.1 entry.1 = .lt := fun x hx =>
      (List.pairwise_append.1 h).2.2 x hx entry List.mem_cons_self
    have hinsert : (m.insert entry.1 entry.2).entries = m.entries ++ [entry] :=
      setEntry_of_forall_lt _ hlast
    have hmove : (m.insert entry.1 entry.2).entries ++ rest = m.entries ++ entry :: rest := by
      rw [hinsert, List.append_assoc, List.singleton_append]
    show ((m.insert entry.1 entry.2).insertAll rest).entries = _
    rw [ih (m.insert entry.1 entry.2) (by rwa [hmove]), hmove]

/-- A map is the map of its entries. -/
theorem ofList_entries (m : SortedMap κ β) : ofList m.entries = m := by
  have hlist : (ofList m.entries).entries = m.entries :=
    entries_insertAll_of_increasing empty m.increasing
  cases hmap : ofList m.entries
  cases m
  rw [hmap] at hlist
  cases hlist
  rfl

end Entries

/-! ## Entries in any order -/

section Order

variable [TransOrd κ]

theorem nodup_keys (m : SortedMap κ β) : (m.entries.map (·.1)).Nodup :=
  m.keys_increasing.imp fun hlt heq => by simp [heq] at hlt

/-- Maps with the same entries are equal. -/
theorem eq_of_mem_iff {m₁ m₂ : SortedMap κ β}
    (h : ∀ entry, entry ∈ m₁.entries ↔ entry ∈ m₂.entries) : m₁ = m₂ := by
  have hentries : m₁.entries = m₂.entries :=
    eq_of_increasing_of_mem_iff (·.1) m₁.increasing m₂.increasing h
  cases m₁
  cases m₂
  cases hentries
  rfl

variable [LawfulEqOrd κ] [DecidableEq κ]

/-- The entries of a map are the keys with what is found under them. -/
theorem mem_entries_iff {m : SortedMap κ β} {entry : κ × β} :
    entry ∈ m.entries ↔ m.get? entry.1 = some entry.2 := by
  have hfind {entry other : κ × β} : m.entries.find? (fun x => x.1 = entry.1) = some other ↔
      other ∈ m.entries ∧ other.1 = entry.1 := find?_eq_some_iff_of_nodup m.nodup_keys
  rw [get?_eq_find?, Option.map_eq_some_iff]
  constructor
  · exact fun hentry => ⟨entry, hfind.2 ⟨hentry, rfl⟩, rfl⟩
  · rintro ⟨other, hother, hvalue⟩
    obtain ⟨hmem, hkey⟩ := hfind.1 hother
    rwa [← Prod.ext hkey hvalue]

/-- The map of entries of different keys has these entries. -/
theorem mem_entries_ofList {entries : List (κ × β)} (hkeys : (entries.map (·.1)).Nodup)
    {entry : κ × β} : entry ∈ (ofList entries).entries ↔ entry ∈ entries := by
  rw [mem_entries_iff, get?_ofList, Option.map_eq_some_iff]
  constructor
  · rintro ⟨last, hlast, hvalue⟩
    obtain ⟨hmem, hkey⟩ := List.mem_filter.1 (List.mem_of_getLast? hlast)
    rwa [← Prod.ext (of_decide_eq_true hkey) hvalue]
  · intro hentry
    have hfilter : entry ∈ entries.filter fun other => other.1 = entry.1 :=
      List.mem_filter.2 ⟨hentry, by simp⟩
    obtain ⟨last, hlast⟩ := Option.isSome_iff_exists.1
      (List.getLast?_isSome.2 (List.ne_nil_of_mem hfilter))
    obtain ⟨hmem, hkey⟩ := List.mem_filter.1 (List.mem_of_getLast? hlast)
    have heq := List.inj_on_of_nodup_map hkeys hmem hentry (of_decide_eq_true hkey)
    exact ⟨last, hlast, congrArg Prod.snd heq⟩

/-- **Entries of different keys give the same map in any order.** -/
theorem ofList_of_perm {xs ys : List (κ × β)} (hperm : xs.Perm ys) (hkeys : (xs.map (·.1)).Nodup) :
    ofList xs = ofList ys := by
  have hkeys' : (ys.map (·.1)).Nodup := (hperm.map _).nodup_iff.1 hkeys
  apply eq_of_mem_iff
  intro entry
  rw [mem_entries_ofList hkeys, mem_entries_ofList hkeys', hperm.mem_iff]

end Order

end SortedMap

end CompositeBuild
