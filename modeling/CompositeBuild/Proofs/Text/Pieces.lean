/-
# Texts joined by a separator

Joining texts by a separator loses nothing as long as no text is empty or holds the separator
(`intercalate_inj`), as cutting the joined text gives the texts back.  Texts with the separator are
cut themselves when the joined text is (`splitOn_intercalate_eq_flatMap`).
-/

namespace CompositeBuild.Text

/-! ## Cutting joined texts -/

/-- No piece holds the separator. -/
theorem not_mem_of_mem_splitOn {sep : Char} {cs piece : List Char} (h : piece ∈ cs.splitOn sep) :
    sep ∉ piece := by
  induction cs generalizing piece with
  | nil =>
    obtain rfl := List.mem_singleton.1 h
    exact List.not_mem_nil
  | cons c rest ih =>
    rw [List.splitOn_cons_eq_if_modifyHead] at h
    split at h
    case isTrue =>
      rcases List.mem_cons.1 h with rfl | h
      · exact List.not_mem_nil
      · exact ih h
    case isFalse hc =>
      have hne : sep ≠ c := fun heq => hc (by simp [heq])
      cases hrest : rest.splitOn sep with
      | nil => exact absurd hrest (List.splitOn_ne_nil sep rest)
      | cons first more =>
        rw [hrest] at h ih
        rcases List.mem_cons.1 h with rfl | h
        · exact List.not_mem_cons_of_ne_of_not_mem hne (ih List.mem_cons_self)
        · exact ih (List.mem_cons_of_mem first h)

/-- The pieces of a joined text are those of the texts that it was joined of. -/
theorem splitOn_intercalate_eq_flatMap {sep : Char} {xs : List (List Char)} (hne : xs ≠ []) :
    ([sep].intercalate xs).splitOn sep = xs.flatMap (·.splitOn sep) := by
  induction xs with
  | nil => exact absurd rfl hne
  | cons x rest ih =>
    cases rest with
    | nil => rw [List.intercalate_singleton, List.flatMap_singleton]
    | cons y rest =>
      rw [List.flatMap_cons, List.intercalate_cons_cons, List.append_assoc, List.singleton_append,
        List.splitOn_append_cons_self, ih (List.cons_ne_nil y rest)]

/-- Joined texts without the separator are equal only if the texts are, if there are any on both
sides. -/
theorem intercalate_inj_of_ne_nil {sep : Char} {xs ys : List String} (hxne : xs ≠ [])
    (hyne : ys ≠ []) (hxs : ∀ s ∈ xs, sep ∉ s.toList) (hys : ∀ s ∈ ys, sep ∉ s.toList)
    (h : [sep].intercalate (xs.map String.toList) = [sep].intercalate (ys.map String.toList)) :
    xs = ys := by
  have hsplit {zs : List String} (hne : zs ≠ []) (hzs : ∀ s ∈ zs, sep ∉ s.toList) :
      ([sep].intercalate (zs.map String.toList)).splitOn sep = zs.map String.toList :=
    List.splitOn_intercalate sep (by simpa using hzs) (by simpa using hne)
  rw [← List.map_inj_right fun _ _ => String.toList_inj.1, ← hsplit hxne hxs, h, hsplit hyne hys]

/-- The name can stand between two separators: it is not empty and does not hold the separator. -/
def IsName (sep : Char) (s : String) : Prop := s ≠ "" ∧ sep ∉ s.toList

instance (sep : Char) (s : String) : Decidable (IsName sep s) :=
  inferInstanceAs (Decidable (_ ∧ _))

/-- Joined names are equal only if the names are. -/
theorem intercalate_inj {sep : Char} {xs ys : List String} (hxs : ∀ s ∈ xs, IsName sep s)
    (hys : ∀ s ∈ ys, IsName sep s)
    (h : [sep].intercalate (xs.map String.toList) = [sep].intercalate (ys.map String.toList)) :
    xs = ys := by
  -- The join of no names is empty, and so is that of one empty name, which is why names are not.
  have hempty {zs : List String} (hzs : ∀ s ∈ zs, IsName sep s)
      (hz : [sep].intercalate (zs.map String.toList) = []) : zs = [] := by
    cases zs with
    | nil => rfl
    | cons z rest =>
      refine absurd ?_ (hzs z List.mem_cons_self).1
      cases rest with
      | nil => simpa using hz
      | cons z' rest => simp [List.intercalate_cons_cons] at hz
  by_cases hxne : xs = []
  · subst hxne
    exact (hempty hys h.symm).symm
  · by_cases hyne : ys = []
    · subst hyne
      exact hempty hxs h
    · exact intercalate_inj_of_ne_nil hxne hyne (fun s hs => (hxs s hs).2)
        (fun s hs => (hys s hs).2) h

end CompositeBuild.Text
