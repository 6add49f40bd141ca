/-
# Entries with repeated keys

When entries are set one after the other and some keys are repeated, each key keeps the place where
it was first set (`map_fst_foldl_putEntry`) and has the value that it was last set to
(`mem_foldl_putEntry_iff`).
-/
import CompositeBuild.Proofs.Collection.InsertionMap
import Mathlib.Data.List.Induction

namespace CompositeBuild

/-! ## Repeated elements -/

/-- The first occurrences of the elements of a list are distinct. -/
theorem nodup_eraseDups {α : Type} [BEq α] [LawfulBEq α] (xs : List α) : xs.eraseDups.Nodup := by
  match xs with
  | [] => exact List.nodup_nil
  | x :: rest =>
    rw [List.eraseDups_cons, List.nodup_cons]
    refine ⟨?_, nodup_eraseDups _⟩
    simp [List.mem_eraseDups]
  termination_by xs.length
  decreasing_by exact Nat.lt_succ_of_le (List.length_filter_le _ _)

variable {β γ : Type} {entries : List (String × β)} {key : String} {value : β}

/-! ## Keys that occur once -/

/-- The key occurs in one entry only, which holds the value. -/
def IsOnly (entries : List (String × β)) (key : String) (value : β) : Prop :=
  ∃ before after, entries = before ++ (key, value) :: after ∧
    key ∉ before.map (·.1) ∧ key ∉ after.map (·.1)

theorem filter_key_eq_nil_iff : entries.filter (·.1 = key) = [] ↔ key ∉ entries.map (·.1) := by
  rw [List.filter_eq_nil_iff, List.mem_map]
  simp only [decide_eq_true_eq, not_exists, not_and]

/-- A key occurs in one entry only exactly if this is all that is left of the entries of the key. -/
theorem isOnly_iff : IsOnly entries key value ↔ entries.filter (·.1 = key) = [(key, value)] := by
  rw [List.filter_eq_cons_iff]
  constructor
  · rintro ⟨before, after, hentries, hbefore, hafter⟩
    refine ⟨before, after, hentries, ?_, decide_eq_true rfl, filter_key_eq_nil_iff.2 hafter⟩
    exact List.filter_eq_nil_iff.1 (filter_key_eq_nil_iff.2 hbefore)
  · rintro ⟨before, after, hentries, hbefore, -, hafter⟩
    refine ⟨before, after, hentries, ?_, filter_key_eq_nil_iff.1 hafter⟩
    exact filter_key_eq_nil_iff.1 (List.filter_eq_nil_iff.2 hbefore)

/-! ## Keys that are set again -/

/-- The last entry of the key holds the value. -/
def IsLast (entries : List (String × β)) (key : String) (value : β) : Prop :=
  ∃ before after, entries = before ++ (key, value) :: after ∧ key ∉ after.map (·.1)

theorem IsLast.mem (h : IsLast entries key value) : (key, value) ∈ entries := by
  obtain ⟨before, after, rfl, -⟩ := h
  exact List.mem_append_right before List.mem_cons_self

/-- The only entry of a key is its last. -/
theorem IsOnly.isLast (h : IsOnly entries key value) : IsLast entries key value := by
  obtain ⟨before, after, hentries, -, hafter⟩ := h
  exact ⟨before, after, hentries, hafter⟩

/-- The last entry of a key that does not occur twice is its only one. -/
theorem IsLast.isOnly (h : IsLast entries key value) (hcount : (entries.map (·.1)).count key ≤ 1) :
    IsOnly entries key value := by
  obtain ⟨before, after, rfl, hafter⟩ := h
  refine ⟨before, after, rfl, ?_, hafter⟩
  rw [List.map_append, List.map_cons, List.count_append, List.count_cons_self] at hcount
  exact List.count_eq_zero.1 (by omega)

theorem not_isLast_nil : ¬ IsLast [] key value := fun h => nomatch h.mem

/-- One more entry is the last of its key and leaves the last of every other key. -/
theorem isLast_concat {last : String × β} :
    IsLast (entries ++ [last]) key value ↔
      (key, value) = last ∨ key ≠ last.1 ∧ IsLast entries key value := by
  constructor
  · rintro ⟨before, after, hentries, hafter⟩
    rcases List.eq_nil_or_concat after with rfl | ⟨after, other, rfl⟩
    · exact .inl (List.append_singleton_inj.1 hentries).2.symm
    · rw [List.concat_eq_append, ← List.cons_append, ← List.append_assoc,
        List.append_singleton_inj] at hentries
      obtain ⟨rfl, rfl⟩ := hentries
      simp only [List.concat_eq_append, List.map_append, List.map_singleton, List.mem_append,
        List.mem_singleton, not_or] at hafter
      exact .inr ⟨hafter.2, before, after, rfl, hafter.1⟩
  · rintro (rfl | ⟨hne, before, after, rfl, hafter⟩)
    · exact ⟨entries, [], rfl, List.not_mem_nil⟩
    · refine ⟨before, after ++ [last], by rw [List.append_assoc, List.cons_append], ?_⟩
      rw [List.map_append, List.map_singleton, List.mem_append, List.mem_singleton, not_or]
      exact ⟨hafter, hne⟩

/-- A key has one last value. -/
theorem IsLast.unique {value' : β} (h : IsLast entries key value) (h' : IsLast entries key value') :
    value = value' := by
  induction entries using List.reverseRecOn with
  | nil => exact absurd h not_isLast_nil
  | append_singleton entries last ih =>
    rcases isLast_concat.1 h with rfl | ⟨hne, h⟩
    · rcases isLast_concat.1 h' with heq | ⟨hne, -⟩
      · exact (Prod.mk.inj heq).2.symm
      · exact absurd rfl hne
    · rcases isLast_concat.1 h' with rfl | ⟨-, h'⟩
      · exact absurd rfl hne
      · exact ih h h'

/-- Changing the values of entries changes the value of the last entry of each key. -/
theorem isLast_map {f : β → γ} {value : γ} :
    IsLast (entries.map fun entry => (entry.1, f entry.2)) key value ↔
      ∃ value', IsLast entries key value' ∧ f value' = value := by
  constructor
  · rintro ⟨before, after, hentries, hafter⟩
    obtain ⟨before', rest, rfl, rfl, hrest⟩ := List.map_eq_append_iff.1 hentries
    obtain ⟨⟨key', value'⟩, after', rfl, hentry, rfl⟩ := List.map_eq_cons_iff.1 hrest
    cases hentry
    rw [map_fst_map] at hafter
    exact ⟨value', ⟨before', after', rfl, hafter⟩, rfl⟩
  · rintro ⟨value', ⟨before, after, rfl, hafter⟩, rfl⟩
    refine ⟨_, _, by rw [List.map_append, List.map_cons], ?_⟩
    rwa [map_fst_map]

/-! ## Setting entries one after the other -/

/-- Entries are the same if their keys are and no key has different values in them. -/
theorem eq_of_map_fst {entries' : List (String × β)}
    (hkeys : entries.map (·.1) = entries'.map (·.1))
    (hvalues : ∀ key value value',
      (key, value) ∈ entries → (key, value') ∈ entries' → value = value') :
    entries = entries' := by
  induction entries generalizing entries' with
  | nil => exact (List.map_eq_nil_iff.1 hkeys.symm).symm
  | cons entry rest ih =>
    obtain ⟨⟨key, value⟩, rest', rfl, hkey, hrest⟩ := List.map_eq_cons_iff.1 hkeys.symm
    obtain ⟨key', value'⟩ := entry
    obtain rfl : key = key' := hkey
    rw [hvalues key value' value List.mem_cons_self List.mem_cons_self, ih hrest.symm
      fun key value value' h h' =>
        hvalues key value value' (List.mem_cons_of_mem _ h) (List.mem_cons_of_mem _ h')]

/-- Where keys are distinct, setting one leaves the entries of all others. -/
theorem mem_putEntry_iff {entry new : String × β} (h : (entries.map (·.1)).Nodup) :
    entry ∈ putEntry new.1 new.2 entries ↔ entry = new ∨ entry.1 ≠ new.1 ∧ entry ∈ entries := by
  induction entries with
  | nil => simp [putEntry]
  | cons first rest ih =>
    obtain ⟨hfirst, hrest⟩ := List.nodup_cons.1 h
    rw [putEntry]
    split
    case isTrue hkey =>
      -- The key does not occur in the rest, so no entry there is replaced too.
      have hother : entry ∈ rest → entry.1 ≠ new.1 := fun hmem heq =>
        hfirst (List.mem_map.2 ⟨entry, hmem, heq.trans hkey.symm⟩)
      rw [List.mem_cons, List.mem_cons]
      grind
    case isFalse hkey =>
      rw [List.mem_cons, List.mem_cons, ih hrest]
      grind

theorem nodup_foldl_putEntry (entries : List (String × β)) :
    ((entries.foldl (fun xs entry => putEntry entry.1 entry.2 xs) []).map (·.1)).Nodup := by
  have hdistinct := (InsertionMap.ofList entries).distinct
  rwa [InsertionMap.ofList, InsertionMap.entries_foldl_insert] at hdistinct

/-- Where keys are distinct, the value that is found under a key is that of its entry. -/
theorem findEntry_eq_some_iff (h : (entries.map (·.1)).Nodup) :
    findEntry entries key = some value ↔ (key, value) ∈ entries := by
  induction entries with
  | nil => exact ⟨nofun, nofun⟩
  | cons entry rest ih =>
    obtain ⟨hfirst, hrest⟩ := List.nodup_cons.1 h
    rw [findEntry_cons, List.mem_cons]
    split
    case isTrue hkey =>
      have hother : (key, value) ∉ rest := fun hmem =>
        hfirst (List.mem_map.2 ⟨(key, value), hmem, hkey.symm⟩)
      rw [or_iff_left hother, Prod.ext_iff, Option.some.injEq, eq_comm (a := key)]
      exact ⟨fun hvalue => ⟨hkey, hvalue.symm⟩, fun heq => heq.2.symm⟩
    case isFalse hkey =>
      have hne : (key, value) ≠ entry := fun heq => hkey (heq ▸ rfl)
      rw [ih hrest, or_iff_right hne]

/-- **Each key keeps the place where it was first set.** -/
theorem map_fst_foldl_putEntry (entries : List (String × β)) :
    (entries.foldl (fun xs entry => putEntry entry.1 entry.2 xs) []).map (·.1) =
      (entries.map (·.1)).eraseDups := by
  induction entries using List.reverseRecOn with
  | nil => rfl
  | append_singleton entries last ih =>
    rw [List.foldl_append, List.map_append, List.eraseDups_append, List.foldl_cons, List.foldl_nil,
      map_fst_putEntry, ih, List.map_singleton, List.removeAll]
    split
    case isTrue hmem =>
      rw [List.mem_eraseDups] at hmem
      rw [List.filter_cons_of_neg (by simpa using hmem), List.filter_nil, List.eraseDups_nil,
        List.append_nil]
    case isFalse hmem =>
      rw [List.mem_eraseDups] at hmem
      rw [List.filter_cons_of_pos (by simpa using hmem), List.filter_nil, List.eraseDups_cons,
        List.filter_nil, List.eraseDups_nil]

/-- **Each key has the value that it was last set to.** -/
theorem mem_foldl_putEntry_iff :
    (key, value) ∈ entries.foldl (fun xs entry => putEntry entry.1 entry.2 xs) [] ↔
      IsLast entries key value := by
  induction entries using List.reverseRecOn with
  | nil => exact ⟨nofun, fun h => absurd h not_isLast_nil⟩
  | append_singleton entries last ih =>
    rw [List.foldl_append, List.foldl_cons, List.foldl_nil,
      mem_putEntry_iff (nodup_foldl_putEntry entries), ih, isLast_concat]

theorem InsertionMap.mem_of_mem_ofList {entry : String × β} (h : entry ∈ (ofList entries).entries) :
    entry ∈ entries := by
  rw [ofList, entries_foldl_insert] at h
  exact (mem_foldl_putEntry_iff.1 h).mem

end CompositeBuild
