/-
# Trimming texts

What is taken or dropped from the start of a list ends at the first element that stays
(`takeWhile_append_of_head`, `dropWhile_append_of_head`).  Trimming a text leaves what is between
the white space at its start and that at its end (`isTrimmed_trim`), and there is just one such text
(`IsTrimmed.trim_eq`).
-/
import CompositeBuild.Unicode.WhiteSpace
import Mathlib.Data.List.Basic
import Mathlib.Data.List.TakeWhile

namespace CompositeBuild

/-! ## The start of a list -/

section While

variable {α : Type} {p : α → Bool} {xs ys : List α}

/-- What is dropped from a list ends where its first element stays. -/
theorem dropWhile_append_of_head (hxs : ∀ x ∈ xs, p x = true) (hys : ∀ y ∈ ys.head?, p y = false) :
    (xs ++ ys).dropWhile p = ys := by
  rw [List.dropWhile_append_of_pos hxs]
  cases ys with
  | nil => rfl
  | cons y rest => exact List.dropWhile_cons_of_neg (by simp [hys y rfl])

/-- What is taken from a list ends where its first element is left. -/
theorem takeWhile_append_of_head (hxs : ∀ x ∈ xs, p x = true) (hys : ∀ y ∈ ys.head?, p y = false) :
    (xs ++ ys).takeWhile p = xs := by
  rw [List.takeWhile_append_of_pos hxs]
  cases ys with
  | nil => exact List.append_nil _
  | cons y rest => rw [List.takeWhile_cons_of_neg (by simp [hys y rfl]), List.append_nil]

/-- The first element that is not dropped stays. -/
theorem of_mem_head?_dropWhile (x : α) (h : x ∈ (xs.dropWhile p).head?) : p x = false := by
  have hstays := List.head?_dropWhile_not p xs
  rw [h] at hstays
  exact hstays

end While

/-! ## White space -/

namespace Unicode

/-- The text is `inner` with white space around it, and `inner` neither starts nor ends with any. -/
structure IsTrimmed (cs inner : List Char) : Prop where
  around : ∃ before after, cs = before ++ (inner ++ after) ∧
    (∀ c ∈ before, isWhiteSpace c = true) ∧ ∀ c ∈ after, isWhiteSpace c = true
  head : ∀ c ∈ inner.head?, isWhiteSpace c = false
  last : ∀ c ∈ inner.getLast?, isWhiteSpace c = false

/-- A text without the white space at its end. -/
theorem exists_trimmed_end (cs : List Char) : ∃ inner after, cs = inner ++ after ∧
    (∀ c ∈ after, isWhiteSpace c = true) ∧ ∀ c ∈ inner.getLast?, isWhiteSpace c = false := by
  refine ⟨(cs.reverse.dropWhile isWhiteSpace).reverse, (cs.reverse.takeWhile isWhiteSpace).reverse,
    ?_, ?_, ?_⟩
  · rw [← List.reverse_append, List.takeWhile_append_dropWhile, List.reverse_reverse]
  · exact fun c hc => List.mem_takeWhile_imp (List.mem_reverse.1 hc)
  · rw [List.getLast?_reverse]
    exact of_mem_head?_dropWhile

/-- Trimming leaves the text without the white space around it. -/
theorem IsTrimmed.trim_eq {cs inner : List Char} (h : IsTrimmed cs inner) : trim cs = inner := by
  obtain ⟨⟨before, after, rfl, hbefore, hafter⟩, hhead, hlast⟩ := h
  unfold trim
  by_cases hnil : inner = []
  · subst hnil
    have hall : ∀ c ∈ before ++ after, isWhiteSpace c = true := by
      simpa [or_imp, forall_and] using ⟨hbefore, hafter⟩
    rw [List.nil_append, List.dropWhile_eq_nil_iff.2 hall]
    rfl
  · have hhead' : ∀ c ∈ (inner ++ after).head?, isWhiteSpace c = false := by
      rwa [List.head?_append_of_ne_nil _ hnil]
    rw [dropWhile_append_of_head hbefore hhead', List.reverse_append,
      dropWhile_append_of_head (by simpa using hafter) (by rwa [List.head?_reverse]),
      List.reverse_reverse]

/-- Every text can be trimmed. -/
theorem isTrimmed_trim (cs : List Char) : IsTrimmed cs (trim cs) := by
  obtain ⟨inner, after, hcut, hafter, hlast⟩ := exists_trimmed_end (cs.dropWhile isWhiteSpace)
  have hinner : IsTrimmed cs inner :=
    { around := by
        refine ⟨cs.takeWhile isWhiteSpace, after, ?_, fun c => List.mem_takeWhile_imp, hafter⟩
        rw [← hcut, List.takeWhile_append_dropWhile]
      head := by
        intro c hc
        have hfirst : c ∈ (cs.dropWhile isWhiteSpace).head? := by
          rw [hcut, List.head?_append, hc, Option.some_or]
          exact rfl
        exact of_mem_head?_dropWhile c hfirst
      last := hlast }
  rwa [hinner.trim_eq]

end Unicode

end CompositeBuild
