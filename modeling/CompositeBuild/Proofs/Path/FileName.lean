/-
# The file name of a path

The file name of a path is read from its components.  In the text of the path it is the last of the
pieces between slashes that stands for something: behind it there are only empty pieces and `.`, as
slashes that are repeated or at the end leave them (`fileName_eq_some_iff`).  What is before it may
be anything.
-/
import CompositeBuild.Path
import CompositeBuild.Proofs.Text.Pieces
import Mathlib.Data.List.Basic

namespace CompositeBuild

namespace PathComponent

/-- Empty pieces and `.` stand for no component. -/
theorem ofPiece_eq_none_iff {piece : List Char} :
    ofPiece piece = none ↔ piece = [] ∨ piece = ['.'] := by
  unfold ofPiece
  split <;> simp_all

/-- A piece stands for a name if it is that name, unless it is one of those with another meaning. -/
theorem ofPiece_eq_name_iff {piece : List Char} {text : String} :
    ofPiece piece = some (.name text) ↔
      piece = text.toList ∧ text ≠ "" ∧ text ≠ "." ∧ text ≠ ".." := by
  unfold ofPiece
  split
  case h_1 => exact ⟨nofun, fun ⟨h, hne, _⟩ => absurd (String.toList_inj.1 h.symm) hne⟩
  case h_2 => exact ⟨nofun, fun ⟨h, _, hcurrent, _⟩ => absurd (String.toList_inj.1 h.symm) hcurrent⟩
  case h_3 => exact ⟨nofun, fun ⟨h, _, _, hparent⟩ => absurd (String.toList_inj.1 h.symm) hparent⟩
  case h_4 hempty hcurrent hparent =>
    rw [Option.some_inj, name.injEq]
    constructor
    · rintro rfl
      refine ⟨String.toList_ofList.symm, ?_, ?_, ?_⟩
      · exact fun h => hempty (String.ofList_injective h)
      · exact fun h => hcurrent (String.ofList_injective h)
      · exact fun h => hparent (String.ofList_injective h)
    · rintro ⟨rfl, -⟩
      exact String.ofList_toList

end PathComponent

namespace Path

/-! ## Components and pieces -/

/-- The components of a path are those that the pieces between its slashes stand for, behind the
root or a leading `.`. -/
theorem exists_components_eq (path : Path) : ∃ leading,
    (∀ c ∈ leading, c = .root ∨ c = .current) ∧
      path.components =
        leading ++ (path.text.toList.splitOn '/').filterMap PathComponent.ofPiece := by
  unfold components componentsOf
  split
  case h_1 => exact ⟨[.root], by simp, rfl⟩
  -- As a piece the leading `.` stands for nothing, so the other pieces stand for what all of them
  -- do.
  case h_2 hpieces _ =>
    rw [hpieces]
    exact ⟨[.current], by simp, rfl⟩
  case h_3 => exact ⟨[], by simp, rfl⟩

/-- The file name is the last component if that is a name. -/
theorem fileName_eq_some_iff_getLast? {path : Path} {name : String} :
    path.fileName = some name ↔ path.components.getLast? = some (.name name) := by
  unfold fileName
  split
  case h_1 text hlast => rw [hlast, Option.some_inj, Option.some_inj, PathComponent.name.injEq]
  case h_2 hlast => exact ⟨nofun, fun h => absurd h (hlast name)⟩

/-- The file name is what the last piece that stands for a component is a name for. -/
theorem fileName_eq_some_iff_findSome? {path : Path} {name : String} :
    path.fileName = some name ↔
      (path.text.toList.splitOn '/').reverse.findSome? PathComponent.ofPiece =
        some (.name name) := by
  obtain ⟨leading, hleading, hcomponents⟩ := path.exists_components_eq
  rw [fileName_eq_some_iff_getLast?, hcomponents, List.getLast?_append, List.getLast?_filterMap,
    Option.or_eq_some_iff]
  refine ⟨fun h => h.resolve_right ?_, .inl⟩
  -- What leads a path is no name, so it gives no file name to a path without pieces.
  rintro ⟨-, hlast⟩
  rcases hleading _ (List.mem_of_getLast? hlast) with h | h <;> exact nomatch h

/-! ## The last name in the text of a path -/

/-- The name can be that of a file: it is not empty, has no slash and is neither `.` nor `..`. -/
def IsFileName (name : String) : Prop := Text.IsName '/' name ∧ name ≠ "." ∧ name ≠ ".."

/-- The text of the path is joined by slashes of anything, the name of a file and, behind it, empty
texts and `.` only. -/
def HasLastName (path : Path) (name : String) : Prop :=
  IsFileName name ∧ ∃ before after : List String,
    path.text = "/".intercalate (before ++ name :: after) ∧ ∀ s ∈ after, s = "" ∨ s = "."

instance (name : String) : Decidable (IsFileName name) := inferInstanceAs (Decidable (_ ∧ _))

/-- The pieces of a path with a last name. -/
theorem pieces_of_text_eq {path : Path} {name : String} {before after : List String}
    (hname : IsFileName name) (htext : path.text = "/".intercalate (before ++ name :: after))
    (hafter : ∀ s ∈ after, s = "" ∨ s = ".") :
    path.text.toList.splitOn '/' =
      (before.map String.toList).flatMap (·.splitOn '/') ++
        name.toList :: after.map String.toList := by
  have hsingle : ∀ s ∈ after.map String.toList, s.splitOn '/' = [s] := by
    intro s hs
    obtain ⟨text, htext, rfl⟩ := List.mem_map.1 hs
    rcases hafter text htext with rfl | rfl <;> rfl
  rw [htext, String.toList_intercalate, List.map_append]
  show (['/'].intercalate _).splitOn '/' = _
  rw [Text.splitOn_intercalate_eq_flatMap (by simp), List.flatMap_append, List.map_cons,
    List.flatMap_cons, List.splitOn_eq_singleton hname.1.2, List.flatMap_congr hsingle,
    List.flatMap_singleton', List.singleton_append]

/-- **The file name of a path is the last name in its text.** -/
theorem fileName_eq_some_iff {path : Path} {name : String} :
    path.fileName = some name ↔ path.HasLastName name := by
  rw [fileName_eq_some_iff_findSome?, List.findSome?_eq_some_iff]
  constructor
  · rintro ⟨after, piece, before, hpieces, hpiece, hafter⟩
    obtain ⟨rfl, hne, hcurrent, hparent⟩ := PathComponent.ofPiece_eq_name_iff.1 hpiece
    have hmem : name.toList ∈ path.text.toList.splitOn '/' := by
      rw [← List.mem_reverse, hpieces]
      simp
    refine ⟨⟨⟨hne, Text.not_mem_of_mem_splitOn hmem⟩, hcurrent, hparent⟩,
      before.reverse.map String.ofList, after.reverse.map String.ofList, ?_, ?_⟩
    · have hforward : path.text.toList.splitOn '/' =
          before.reverse ++ name.toList :: after.reverse := by
        rw [← List.reverse_inj, hpieces]
        simp
      have hjoined : ['/'].intercalate (path.text.toList.splitOn '/') = path.text.toList :=
        List.intercalate_splitOn '/'
      rw [← String.toList_inj, String.toList_intercalate, ← hjoined, hforward]
      simp [Function.comp_def]
    · intro s hs
      obtain ⟨piece, hmem, rfl⟩ := List.mem_map.1 hs
      have hnone := hafter piece (List.mem_reverse.1 hmem)
      rcases PathComponent.ofPiece_eq_none_iff.1 hnone with rfl | rfl
      · exact .inl rfl
      · exact .inr rfl
  · rintro ⟨hname, before, after, htext, hafter⟩
    refine ⟨(after.map String.toList).reverse, name.toList,
      ((before.map String.toList).flatMap (·.splitOn '/')).reverse, ?_, ?_, ?_⟩
    · rw [pieces_of_text_eq hname htext hafter]
      simp
    · exact PathComponent.ofPiece_eq_name_iff.2 ⟨rfl, hname.1.1, hname.2⟩
    · intro piece hpiece
      obtain ⟨s, hs, rfl⟩ := List.mem_map.1 (List.mem_reverse.1 hpiece)
      rcases hafter s hs with rfl | rfl <;> rfl

end Path

end CompositeBuild
