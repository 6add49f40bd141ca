/-
# Members that may be missing, and lists of strings

What the records of snapshots and of dumps have in common: members that are left out when there is
no value, and lists of strings, with what they hold, how deep they nest and how they are read.
-/
import CompositeBuild.Proofs.Json.Decoding

namespace CompositeBuild.Json

/-! ## Members that may be missing or null -/

theorem forall_mem_optionalMember {P : String × Json → Prop} {key : String} {v? : Option Json} :
    (∀ member ∈ optionalMember key v?, P member) ↔ ∀ v ∈ v?, P (key, v) := by
  cases v? <;> simp [optionalMember]

/-- An optional text is read as it is, if its text is. -/
theorem rel_map_string {α : Type} {decode : Decoder α} {text : α → String}
    (h : ∀ a, decode.Reads (.string (text a)) a) (a? : Option α) :
    Option.Rel (fun v a => v ≠ .null ∧ decode.Reads v a) (a?.map fun a => .string (text a)) a? := by
  cases a? with
  | none => exact .none
  | some a => exact .some ⟨nofun, h a⟩

/-- A member that is written as null without a value is read as it was written. -/
theorem orNull_getD_null {α : Type} {decode : Decoder α} {v? : Option Json} {a? : Option α}
    (h : Option.Rel (fun v a => v ≠ .null ∧ decode.Reads v a) v? a?) (room : Nat) :
    Field.orNull (decode room) (v?.getD .null).toNode = within (v?.getD .null).depth room a? := by
  cases h with
  | none => exact within_zero.symm
  | some h => exact Fields.orNull_of_ne_null h.1 h.2

/-! ## Strings and lists of strings -/

/-- A list of texts is read as it is, if its texts are. -/
theorem Decoder.reads_strings {α : Type} {decode : Decoder α} {text : α → String}
    (h : ∀ a, decode.Reads (.string (text a)) a) (as : List α) :
    (Decoder.list decode).Reads (strings (as.map text)) as := by
  have hmap : (as.map text).map Json.string = as.map fun a => Json.string (text a) := by
    rw [List.map_map]
    rfl
  rw [strings, hmap]
  exact reads_list fun a _ => h a

theorem Decoder.reads_texts (texts : List String) :
    (Decoder.list Decoder.string).Reads (strings texts) texts := by
  have h : (Decoder.list Decoder.string).Reads (strings (texts.map id)) texts :=
    Decoder.reads_strings Decoder.reads_string texts
  rwa [List.map_id] at h

@[simp] theorem isIntegral_string (s : String) : (string s).IsIntegral := trivial

@[simp] theorem depth_string (s : String) : (string s).depth = 0 := rfl

theorem isIntegral_map_iff {α : Type} {toJson : α → Json} {as : List α} :
    (array (as.map toJson)).IsIntegral ↔ ∀ a ∈ as, (toJson a).IsIntegral :=
  itemsIntegral_iff.trans List.forall_mem_map

theorem depth_map_le_iff {α : Type} {toJson : α → Json} {as : List α} {n : Nat} :
    (array (as.map toJson)).depth ≤ n + 1 ↔ ∀ a ∈ as, (toJson a).depth ≤ n :=
  depth_array_le_iff.trans List.forall_mem_map

@[simp] theorem isIntegral_strings (texts : List String) : (strings texts).IsIntegral :=
  isIntegral_map_iff.2 fun text _ => isIntegral_string text

theorem depth_strings_le {n : Nat} (texts : List String) : (strings texts).depth ≤ n + 1 :=
  depth_map_le_iff.2 fun _ _ => Nat.zero_le n

end CompositeBuild.Json
