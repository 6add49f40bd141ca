/-
# When reading a property fails

Reading a property fails exactly if a failure was captured in it or in the items of the lists in it,
at any depth, and the error tells the first of them (`read_eq`).  Otherwise it gives the value of
the property, if it holds one.  A property that is wanted in some form can also fail because its
value has another (`errorOf_formed?`).
-/
import CompositeBuild.Proofs.Property.ReservedKeys
import CompositeBuild.Property.Reading

namespace CompositeBuild

namespace Property

/-! ## Failures and values -/

mutual

/-- The reasons of the failures that were captured in a property, and in the items of lists in it,
in order. -/
def failures : Property → List String
  | failed reason => [reason]
  | unresolved reason => [reason]
  | list items => failuresOfItems items
  | _ => []

/-- The reasons of the failures that were captured in the items of a list, in order. -/
def failuresOfItems : List Property → List String
  | [] => []
  | item :: rest => item.failures ++ failuresOfItems rest

end

mutual

/-- The value that a property holds, if it holds one.  What holds none is left out of lists. -/
def held? : Property → Option PropertyValue
  | absent => none
  | failed _ => none
  | unresolved _ => none
  | files paths => some (.files paths)
  | text value => some (.text value)
  | bool value => some (.text (if value then "true" else "false"))
  | number value => some (.text (String.ofList value.text))
  | list items => some (.list (heldByItems items))
  | object members => some (.object members)

/-- The values that the items of a list hold, in order. -/
def heldByItems : List Property → List PropertyValue
  | [] => []
  | item :: rest => item.held?.toList ++ heldByItems rest

end

/-- The items of a list are read one after the other, until the first failure. -/
theorem readItems_eq {name : String} {items : List Property}
    (h : ∀ item ∈ items, item.read name =
      match item.failures with
      | [] => .ok item.held?
      | reason :: _ => .error (.unreadable name reason)) :
    readItems name items =
      match failuresOfItems items with
      | [] => .ok (heldByItems items)
      | reason :: _ => .error (.unreadable name reason) := by
  induction items with
  | nil => rfl
  | cons item rest ih =>
    obtain ⟨hitem, hrest⟩ := List.forall_mem_cons.1 h
    rw [readItems, hitem, ih hrest, failuresOfItems, heldByItems]
    cases item.failures with
    | cons reason more => rfl
    | nil => cases failuresOfItems rest <;> rfl

/-- **Reading a property gives the value that it holds, unless a failure was captured in it: then it
fails with the first.** -/
theorem read_eq (name : String) (p : Property) :
    p.read name =
      match p.failures with
      | [] => .ok p.held?
      | reason :: _ => .error (.unreadable name reason) := by
  induction p using nested_induction with
  | absent | failed | unresolved | files | text | bool | number | object =>
    simp [read, failures, held?]
  | list items ih =>
    rw [read, readItems_eq ih, failures, held?]
    cases failuresOfItems items <;> rfl

/-! ## Properties that are wanted in a form -/

/-- Why a property that was captured under a name cannot be read in a form: because of the first
failure in it, or because its value has another form. -/
def fault? (name : String) (wanted : PropertyForm) (p : Property) : Option PropertyError :=
  match p.failures, p.held? with
  | reason :: _, _ => some (.unreadable name reason)
  | [], some value => if value.form = wanted then none else some (.unexpectedForm name wanted)
  | [], none => none

/-- A property can be read in a form: no failure was captured in it, and it holds a value of this
form. -/
def IsReadable (wanted : PropertyForm) (p : Property) : Prop :=
  p.failures = [] ∧ p.held?.map PropertyValue.form = some wanted

/-- What a view shows of the value of a property, if no failure was captured in it. -/
def shown? {α : Type} (view : PropertyValue → Option α) (p : Property) : Option α :=
  match p.failures with
  | [] => p.held?.bind view
  | _ :: _ => none

end Property

/-- The view shows just the values of the form. -/
def PropertyForm.IsShownBy {α : Type} (wanted : PropertyForm) (view : PropertyValue → Option α) :
    Prop :=
  ∀ value, (view value).isSome ↔ value.form = wanted

section Views

variable {α : Type} {wanted : PropertyForm} {view : PropertyValue → Option α}

/-- Nothing is shown of a property that cannot be read in the form. -/
theorem PropertyForm.IsShownBy.shown?_eq_none (hview : wanted.IsShownBy view) {p : Property}
    (hread : ¬ p.IsReadable wanted) : p.shown? view = none := by
  unfold Property.shown?
  cases hfailures : p.failures with
  | cons reason more => rfl
  | nil =>
    dsimp only
    rw [Option.bind_eq_none_iff]
    intro value hvalue
    by_contra hshown
    have hform : value.form = wanted := (hview value).1 (Option.isSome_iff_ne_none.2 hshown)
    exact hread ⟨hfailures, by rw [hvalue, Option.map_some, hform]⟩

/-- What is made of what is shown is shown by the view that makes it. -/
theorem Property.shown?_map {β : Type} (f : α → β) (p : Property) :
    p.shown? (fun value => (view value).map f) = (p.shown? view).map f := by
  unfold Property.shown?
  cases p.failures with
  | cons reason more => rfl
  | nil => cases p.held? <;> rfl

end Views

namespace PropertyValue

/-- The items of a value that is a list. -/
def asList? : PropertyValue → Option (List PropertyValue)
  | list items => some items
  | _ => none

/-- The paths of a value that is a file collection. -/
def asFiles? : PropertyValue → Option (List Path)
  | files paths => some paths
  | _ => none

theorem isShownBy_asText? : PropertyForm.text.IsShownBy asText? := by
  intro value
  cases value <;> simp [asText?, form]

theorem isShownBy_asList? : PropertyForm.list.IsShownBy asList? := by
  intro value
  cases value <;> simp [asList?, form]

theorem isShownBy_asFiles? : PropertyForm.files.IsShownBy asFiles? := by
  intro value
  cases value <;> simp [asFiles?, form]

theorem isShownBy_asObject? : PropertyForm.object.IsShownBy asObject? := by
  intro value
  cases value <;> simp [asObject?, form]

end PropertyValue

/-! ## Results of reading -/

/-- What comes of reading a property: the value that it holds, if it holds one, or an error. -/
abbrev PropertyResult (α : Type) : Type := Except PropertyError (Option α)

namespace PropertyResult

variable {α : Type}

/-- The value of a result.  After an error there is none. -/
def valueOf : PropertyResult α → Option α
  | .ok value => value
  | .error _ => none

/-- The error of a result, if it is one. -/
def errorOf : PropertyResult α → Option PropertyError
  | .ok _ => none
  | .error e => some e

end PropertyResult

namespace PropertyHolder

open PropertyResult (valueOf errorOf)

variable (h : PropertyHolder) (name : String)

/-- The captured property of a name. -/
def property? : Option Property := h.properties.get? (h.shape.hostName name)

/-- Why the property of a name cannot be read in a form. -/
def fault? (wanted : PropertyForm) : Option PropertyError :=
  (h.property? name).bind (Property.fault? name wanted)

theorem value?_eq : h.value? name =
    match h.property? name with
    | some property => property.read name
    | none => .ok none := rfl

section Formed

variable {h name} {α : Type} {wanted : PropertyForm} {view : PropertyValue → Option α}

/-- What is read of a name is told by the captured property. -/
theorem formed?_congr {h' : PropertyHolder} (heq : h.property? name = h'.property? name) :
    h.formed? name wanted view = h'.formed? name wanted view := by
  unfold formed?
  rw [value?_eq, value?_eq, heq]

/-- A name that is not there is read as no value, and not as an error. -/
theorem formed?_of_not_has (h : PropertyHolder) (habsent : ¬ h.has name = true) :
    h.formed? name wanted view = .ok none := by
  have hnone : h.property? name = none := Option.not_isSome_iff_eq_none.1 habsent
  unfold formed?
  rw [value?_eq, hnone]

/-- **Reading gives what the view shows of the captured property.** -/
theorem valueOf_formed? (h : PropertyHolder) (name : String) (wanted : PropertyForm)
    (view : PropertyValue → Option α) :
    valueOf (h.formed? name wanted view) = (h.property? name).bind (Property.shown? view) := by
  unfold formed?
  rw [value?_eq]
  cases h.property? name with
  | none => rfl
  | some p =>
    rw [Option.bind_some, Property.shown?]
    dsimp only
    rw [Property.read_eq]
    cases p.failures with
    | cons reason more => rfl
    | nil =>
      cases p.held? with
      | none => rfl
      | some value =>
        rw [Option.bind_some]
        dsimp only
        cases view value <;> rfl

/-- **Reading fails exactly with the fault of the captured property.** -/
theorem errorOf_formed? (hview : wanted.IsShownBy view) (h : PropertyHolder) (name : String) :
    errorOf (h.formed? name wanted view) = h.fault? name wanted := by
  unfold formed? fault?
  rw [value?_eq]
  cases h.property? name with
  | none => rfl
  | some p =>
    rw [Option.bind_some, Property.fault?]
    dsimp only
    rw [Property.read_eq]
    cases p.failures with
    | cons reason more => rfl
    | nil =>
      cases p.held? with
      | none => rfl
      | some value =>
        dsimp only
        cases hshown : view value with
        | some a => rw [if_pos ((hview value).1 (Option.isSome_iff_exists.2 ⟨a, hshown⟩)), errorOf]
        | none =>
          have hform : value.form ≠ wanted := by
            intro hform
            rw [← hview value, hshown] at hform
            exact nomatch hform
          rw [if_neg hform, errorOf]

end Formed

end PropertyHolder

end CompositeBuild
