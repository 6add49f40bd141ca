/-
# String forms of captured properties

The string form of a captured property (`stringForm?`) is that of the value that it holds
(`map_display_held?`): scalars have their JSON text, and lists and file collections stand in
brackets. What holds no value has no string form and is left out of lists, at any depth.
-/
import CompositeBuild.Json.Writer
import CompositeBuild.Proofs.Property.Reading

namespace CompositeBuild

theorem PropertyValue.displayItems_eq_map (items : List PropertyValue) :
    displayItems items = items.map display := by
  induction items with
  | nil => rfl
  | cons item rest ih => rw [displayItems, ih, List.map_cons]

namespace Property

/-! ## String forms -/

/-- Texts in brackets, with commas between them. -/
def bracketed (texts : List String) : String := "[" ++ ", ".intercalate texts ++ "]"

mutual

/-- The string form of a property: the text itself, the JSON text of a truth value or a number, the
string forms of the items of a list or the paths of a file collection in brackets.  The members of
an object are not shown, and what holds no value has no string form. -/
def stringForm? : Property → Option String
  | absent => none
  | failed _ => none
  | unresolved _ => none
  | files paths => some (bracketed (paths.map Path.text))
  | text value => some value
  | bool value => some (Json.bool value).compact
  | number value => some (Json.number value).compact
  | list items => some (bracketed (stringForms items))
  | object _ => some "\x7b..\x7d"

/-- The string forms of the items of a list that have one, in order. -/
def stringForms : List Property → List String
  | [] => []
  | item :: rest => item.stringForm?.toList ++ stringForms rest

end

/-- Items without a string form are left out, and the others keep their order. -/
theorem stringForms_eq_filterMap (items : List Property) :
    stringForms items = items.filterMap stringForm? := by
  induction items with
  | nil => rfl
  | cons item rest ih =>
    rw [stringForms, ih, List.filterMap_cons]
    cases item.stringForm? <;> rfl

/-- The values that the items of a list hold. -/
theorem heldByItems_eq_filterMap (items : List Property) :
    heldByItems items = items.filterMap held? := by
  induction items with
  | nil => rfl
  | cons item rest ih =>
    rw [heldByItems, ih, List.filterMap_cons]
    cases item.held? <;> rfl

/-- **The string form of a property is that of the value that it holds.** -/
theorem map_display_held? (p : Property) :
    p.held?.map PropertyValue.display = p.stringForm? := by
  induction p using nested_induction with
  | absent | failed | unresolved | files | text | number | object =>
    rfl
  | bool value => cases value <;> rfl
  | list items ih =>
    have hitems : (heldByItems items).map PropertyValue.display = stringForms items := by
      rw [heldByItems_eq_filterMap, List.map_filterMap, stringForms_eq_filterMap]
      exact List.filterMap_congr ih
    rw [held?, Option.map_some, PropertyValue.display, PropertyValue.displayItems_eq_map, hitems,
      stringForm?, bracketed]

theorem map_display_heldByItems (items : List Property) :
    (heldByItems items).map PropertyValue.display = items.filterMap stringForm? := by
  rw [heldByItems_eq_filterMap, List.map_filterMap]
  exact List.filterMap_congr fun item _ => map_display_held? item

/-! ## Lists and file collections -/

/-- The items of a property that is a list from which no failure is reached through lists.  Any
other property has none. -/
def readableItems : Option Property → List Property
  | some (list items) => if failuresOfItems items = [] then items else []
  | _ => []

/-- The paths of a property that is a file collection. -/
def capturedPaths : Option Property → List Path
  | some (files paths) => paths
  | _ => []

/-- What is read of a list are the values that its readable items hold. -/
theorem getD_shown?_asList? (p? : Option Property) :
    (p?.bind (shown? PropertyValue.asList?)).getD [] = heldByItems (readableItems p?) := by
  cases p? with
  | none => rfl
  | some p =>
    rw [Option.bind_some, shown?]
    cases p with
    | list items =>
      rw [failures, held?, readableItems]
      cases failuresOfItems items with
      | nil => rfl
      | cons reason more => rfl
    | absent | failed | unresolved | files | text | bool | number | object => rfl

/-- What is read of a file collection are its paths. -/
theorem getD_shown?_asFiles? (p? : Option Property) :
    (p?.bind (shown? PropertyValue.asFiles?)).getD [] = capturedPaths p? := by
  cases p? with
  | none => rfl
  | some p =>
    rw [Option.bind_some, shown?]
    cases p with
    | list items =>
      rw [failures, held?]
      cases failuresOfItems items <;> rfl
    | absent | failed | unresolved | files | text | bool | number | object => rfl

theorem failuresOfItems_append (xs ys : List Property) :
    failuresOfItems (xs ++ ys) = failuresOfItems xs ++ failuresOfItems ys := by
  induction xs with
  | nil => rfl
  | cons x rest ih => rw [List.cons_append, failuresOfItems, ih, failuresOfItems, List.append_assoc]

theorem readableItems_append {xs ys : List Property} (h : failuresOfItems (xs ++ ys) = []) :
    readableItems (some (list (xs ++ ys))) =
      readableItems (some (list xs)) ++ readableItems (some (list ys)) := by
  obtain ⟨hxs, hys⟩ := List.append_eq_nil_iff.1 (failuresOfItems_append xs ys ▸ h)
  simp only [readableItems, if_pos h, if_pos hxs, if_pos hys]

end Property

end CompositeBuild
