/-
# Replacing properties

A property of a task can be set, removed or given another name, and what is looked up under other
names stays (`get?_withProperty_of_ne`, `get?_renamed_of_ne`).  The shape of a task is told by the
two names of its compiler options only, so it stays when any other property is replaced, and when
the options are replaced under the name that they have (`shape_withOptions`).
-/
import CompositeBuild.Proofs.Collection.InsertionMap
import CompositeBuild.Property.Reading

namespace CompositeBuild

namespace PropertyMap

/-! ## Setting, removing and renaming -/

/-- Sets the property of a name, or removes it. -/
def withProperty (m : PropertyMap) (name : String) : Option Property → PropertyMap
  | some property => m.put name property
  | none => m.filter (·.1 ≠ name)

/-- Gives the property of a name another name. -/
def renamed (m : PropertyMap) (old new : String) : PropertyMap :=
  m.map fun entry => (if entry.1 = old then new else entry.1, entry.2)

section Lookup

variable {m : PropertyMap} {name other : String}

theorem get?_withProperty_self (m : PropertyMap) (name : String) (property? : Option Property) :
    (m.withProperty name property?).get? name = property? := by
  cases property? with
  | some property => exact findEntry_putEntry_self name property m
  | none => exact findEntry_filter_self name m

theorem get?_withProperty_of_ne (h : other ≠ name) (property? : Option Property) :
    (m.withProperty name property?).get? other = m.get? other := by
  cases property? with
  | some property => exact findEntry_putEntry_of_ne h property m
  | none => exact findEntry_filter_of_ne h m

theorem has_withProperty_of_ne (h : other ≠ name) (property? : Option Property) :
    (m.withProperty name property?).has other = m.has other := by
  unfold has
  rw [get?_withProperty_of_ne h]

/-- Under the new name is the property that was under the old, if the new name was free. -/
theorem get?_renamed_new {old new : String} (h : m.get? new = none) :
    (m.renamed old new).get? new = m.get? old := by
  induction m with
  | nil => rfl
  | cons entry rest ih =>
    rw [get?, findEntry_cons] at h
    split at h
    case isTrue => exact nomatch h
    case isFalse hnew =>
      unfold get? renamed
      rw [List.map_cons, findEntry_cons, findEntry_cons]
      by_cases hold : entry.1 = old
      · rw [if_pos hold, if_pos rfl, if_pos hold]
      · rw [if_neg (by rwa [if_neg hold]), if_neg hold]
        exact ih h

/-- The property of any other name stays. -/
theorem get?_renamed_of_ne {old new : String} (hold : name ≠ old) (hnew : name ≠ new) :
    (m.renamed old new).get? name = m.get? name := by
  induction m with
  | nil => rfl
  | cons entry rest ih =>
    unfold get? renamed at ih ⊢
    rw [List.map_cons, findEntry_cons, findEntry_cons, ih]
    by_cases h : entry.1 = old
    · rw [if_neg (by rw [if_pos h]; exact hnew.symm), if_neg (by rw [h]; exact hold.symm)]
    · rw [if_neg h]

end Lookup

end PropertyMap

/-! ## Shapes -/

namespace TaskShape

variable {m : PropertyMap}

/-- A task with options under the modern name has the modern shape. -/
theorem ofProperties_of_has (h : m.has compilerOptionsName = true) : ofProperties m = modern := by
  unfold ofProperties
  rw [h]
  rfl

/-- A task with options under the legacy name only has the legacy shape. -/
theorem ofProperties_of_legacy (hmodern : m.has compilerOptionsName = false)
    (hlegacy : m.has legacyOptionsName = true) : ofProperties m = legacy := by
  unfold ofProperties
  rw [hmodern, hlegacy]
  rfl

theorem ofProperties_congr {m' : PropertyMap}
    (hmodern : m.has compilerOptionsName = m'.has compilerOptionsName)
    (hlegacy : m.has legacyOptionsName = m'.has legacyOptionsName) :
    ofProperties m = ofProperties m' := by
  unfold ofProperties
  rw [hmodern, hlegacy]

end TaskShape

namespace PropertyMap

/-- The name under which a task has its compiler options. -/
def optionsName (m : PropertyMap) : String :=
  (TaskShape.ofProperties m).hostName compilerOptionsName

variable {m : PropertyMap}

/-- The shape of a task stays if its options are replaced under their name. -/
theorem shape_withOptions (options : Property) :
    TaskShape.ofProperties (m.withProperty m.optionsName (some options)) =
      TaskShape.ofProperties m := by
  have hset (name : String) : (m.withProperty name (some options)).has name = true := by
    unfold has
    rw [get?_withProperty_self, Option.isSome_some]
  unfold optionsName
  cases hshape : TaskShape.ofProperties m with
  | modern => exact TaskShape.ofProperties_of_has (hset compilerOptionsName)
  | legacy =>
    refine TaskShape.ofProperties_of_legacy ?_ (hset legacyOptionsName)
    show (m.withProperty legacyOptionsName (some options)).has compilerOptionsName = false
    rw [has_withProperty_of_ne (by decide)]
    by_contra hhas
    rw [TaskShape.ofProperties_of_has (by simpa using hhas)] at hshape
    exact nomatch hshape

end PropertyMap

end CompositeBuild
