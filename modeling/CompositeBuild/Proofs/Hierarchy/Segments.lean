/-
# Names on the path of a project

The paths of projects are names joined by colons below the root: the containers of a project are the
names on its path but the last, nearest first (`map_containersAbove`).
-/
import CompositeBuild.Dump.Containers
import CompositeBuild.Proofs.Text.Pieces
import Mathlib.Data.List.Induction

namespace CompositeBuild

namespace Dump

open Text (IsName)

/-! ## Paths below the root -/

/-- The path of names below the root, the outermost first; without names it is that of the root. -/
def pathTo (names : List String) : String := ":" ++ ":".intercalate names

theorem pathTo_nil : pathTo [] = rootPath := rfl

theorem toList_pathTo (names : List String) :
    (pathTo names).toList = ':' :: [':'].intercalate (names.map String.toList) := by
  unfold pathTo
  rw [String.toList_append, String.toList_intercalate]
  rfl

/-- Different names have different paths. -/
theorem pathTo_inj {xs ys : List String} (hxs : ∀ s ∈ xs, IsName ':' s)
    (hys : ∀ s ∈ ys, IsName ':' s) (h : pathTo xs = pathTo ys) : xs = ys := by
  have hlist := congrArg String.toList h
  rw [toList_pathTo, toList_pathTo, List.cons_inj_right] at hlist
  exact Text.intercalate_inj hxs hys hlist

/-- The names of a path, the last first, with the empty piece before the first colon. -/
def segmentsBelow (names : List String) : List (List Char) :=
  (names.map String.toList).reverse ++ [[]]

theorem segmentsBelow_concat (names : List String) (name : String) :
    segmentsBelow (names ++ [name]) = name.toList :: segmentsBelow names := by
  unfold segmentsBelow
  rw [List.map_append, List.reverse_append]
  rfl

/-- The segments of a path are its names. -/
theorem segments_pathTo {names : List String} (hne : names ≠ [])
    (hnames : ∀ s ∈ names, IsName ':' s) : segments (pathTo names) = segmentsBelow names := by
  have hcons : ':' :: [':'].intercalate (names.map String.toList) =
      [':'].intercalate ([] :: names.map String.toList) := by
    cases names with
    | nil => exact absurd rfl hne
    | cons name rest => rfl
  have hpieces : ∀ x ∈ [] :: names.map String.toList, ':' ∉ x := by
    simpa using fun s hs => (hnames s hs).2
  unfold segments segmentsBelow
  rw [toList_pathTo, hcons, List.splitOn_intercalate ':' hpieces (by simp), List.reverse_cons]

theorem pathOf?_cons_cons (last before : List Char) (more : List (List Char)) :
    pathOf? (last :: before :: more) =
      some (String.ofList ([':'].intercalate (last :: before :: more).reverse)) := by
  cases last <;> rfl

/-- The path that ends with the segments of names is the path of the names. -/
theorem pathOf?_segmentsBelow (names : List String) :
    pathOf? (segmentsBelow names) = some (pathTo names) := by
  rcases List.eq_nil_or_concat names with rfl | ⟨init, last, rfl⟩
  · rfl
  · rw [List.concat_eq_append]
    have hpath : pathTo (init ++ [last]) =
        String.ofList ([':'].intercalate (segmentsBelow (init ++ [last])).reverse) := by
      rw [← String.toList_inj, String.toList_ofList, toList_pathTo, segmentsBelow,
        List.reverse_append, List.reverse_reverse]
      cases h : (init ++ [last]).map String.toList with
      | nil => simp at h
      | cons name rest => rfl
    rw [hpath, segmentsBelow_concat]
    cases hinit : segmentsBelow init with
    | nil => simp [segmentsBelow] at hinit
    | cons before more => exact pathOf?_cons_cons _ before more

/-! ## Containers -/

/-- Above a project below the last of some names is that name, and what is above it. -/
theorem containersAbove_segmentsBelow_concat (segment : List Char) {above : List String}
    {name : String} (hname : name ≠ "") :
    containersAbove (segment :: segmentsBelow (above ++ [name])) =
      (pathTo (above ++ [name]), name) :: containersAbove (name.toList :: segmentsBelow above) := by
  have hroot : pathTo (above ++ [name]) ≠ rootPath := by
    intro h
    have hlist := congrArg String.toList h
    rw [toList_pathTo] at hlist
    cases above with
    | nil => simp [rootPath, hname] at hlist
    | cons first rest => cases rest <;> simp [rootPath, List.intercalate_cons_cons] at hlist
  rw [containersAbove, pathOf?_segmentsBelow]
  simp only [hroot, if_false]
  rw [segmentsBelow_concat]
  simp

/-- If each container is called by its name on the path, the containers of a project are the names
above its own, nearest first. -/
theorem map_containersAbove {f : String × String → String} {names : List String}
    (hnames : ∀ s ∈ names, s ≠ "")
    (hf : ∀ above name, above ++ [name] <+: names → f (pathTo (above ++ [name]), name) = name)
    (segment : List Char) :
    (containersAbove (segment :: segmentsBelow names)).map f = names.reverse := by
  induction names using List.reverseRecOn generalizing segment with
  | nil => rfl
  | append_singleton above name ih =>
    have hname : name ≠ "" := hnames name (by simp)
    have habove : ∀ s ∈ above, s ≠ "" := fun s hs => hnames s (by simp [hs])
    have hinit : ∀ a n, a ++ [n] <+: above → f (pathTo (a ++ [n]), n) = n := fun a n h =>
      hf a n (h.trans (List.prefix_append above [name]))
    rw [containersAbove_segmentsBelow_concat segment hname, List.map_cons,
      hf above name List.prefix_rfl, ih habove hinit, List.reverse_append]
    rfl

/-- There are as many containers above a path as names before its last. -/
theorem length_containersAbove_pathTo {above : List String} {name : String}
    (hnames : ∀ s ∈ above ++ [name], IsName ':' s) :
    (containersAbove (segments (pathTo (above ++ [name])))).length = above.length := by
  have habove : ∀ s ∈ above, s ≠ "" := fun s hs => (hnames s (by simp [hs])).1
  have hlast := map_containersAbove (f := Prod.snd) habove (fun _ _ _ => rfl) name.toList
  rw [segments_pathTo (by simp) hnames, segmentsBelow_concat]
  simpa using congrArg List.length hlast

end Dump

end CompositeBuild
