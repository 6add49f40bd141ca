/-
# Where reading a property fails

From a property one comes through lists to items in it, each at a position: the indices in the lists
on the way down, from the outermost on.  Nothing is reached through an object.  Reading a property
fails exactly if a failure was captured at some position, and it tells the failure at the first
position from the left (`read_eq_error_iff`).  Otherwise the value is built like the property,
without the items that hold none (`read_eq_value_iff`).
-/
import CompositeBuild.Proofs.Property.Reading
import Mathlib.Data.List.Lex

namespace CompositeBuild.Property

/-! ## Positions -/

/-- What is at a position, which has one index for each list on the way down.  Objects are not
entered. -/
def at? : Property → List Nat → Option Property
  | p, [] => some p
  | list items, index :: below => items[index]?.bind fun item => item.at? below
  | _, _ :: _ => none

/-- Why there is no value, if the property is a captured failure itself. -/
def reason? : Property → Option String
  | failed reason => some reason
  | unresolved reason => some reason
  | _ => none

/-- A failure was captured at the position, for the reason. -/
def FailsAt (p : Property) (position : List Nat) (reason : String) : Prop :=
  ∃ q, p.at? position = some q ∧ q.reason? = some reason

/-- Of the failures in the property, the one for the reason comes first: no other is further to the
left. -/
def FailsFirst (p : Property) (reason : String) : Prop :=
  ∃ position, p.FailsAt position reason ∧ ∀ other reason', p.FailsAt other reason' →
    other = position ∨ List.Lex (· < ·) position other

section Positions

variable {p item : Property} {items : List Property} {index : Nat} {position below : List Nat}
  {reason reason' : String}

theorem failsAt_nil : p.FailsAt [] reason ↔ p.reason? = some reason :=
  ⟨fun ⟨_, hq, hreason⟩ => Option.some.inj hq ▸ hreason, fun h => ⟨p, rfl, h⟩⟩

/-- A list fails below the top if one of its items fails there. -/
theorem failsAt_list :
    (list items).FailsAt position reason ↔
      ∃ index below item, position = index :: below ∧ items[index]? = some item ∧
        item.FailsAt below reason := by
  constructor
  · rintro ⟨q, hq, hreason⟩
    cases position with
    | nil =>
      cases hq
      exact nomatch hreason
    | cons index below =>
      obtain ⟨item, hitem, hbelow⟩ := Option.bind_eq_some_iff.1 hq
      exact ⟨index, below, item, rfl, hitem, q, hbelow, hreason⟩
  · rintro ⟨index, below, item, rfl, hitem, q, hbelow, hreason⟩
    exact ⟨q, Option.bind_eq_some_iff.2 ⟨item, hitem, hbelow⟩, hreason⟩

/-- Everything but a list fails at the top if it fails at all. -/
theorem FailsAt.reason?_eq (h : p.FailsAt position reason) (hlist : ∀ items, p ≠ list items) :
    position = [] ∧ p.reason? = some reason := by
  cases position with
  | nil => exact ⟨rfl, failsAt_nil.1 h⟩
  | cons index below =>
    obtain ⟨q, hq, -⟩ := h
    cases p with
    | list items => exact absurd rfl (hlist items)
    | absent | failed | unresolved | files | text | bool | number | object => exact nomatch hq

/-- Only one failure comes first. -/
theorem FailsFirst.unique (h : p.FailsFirst reason) (h' : p.FailsFirst reason') :
    reason = reason' := by
  obtain ⟨position, hfails, hfirst⟩ := h
  obtain ⟨position', hfails', hfirst'⟩ := h'
  have hsame : position' = position := by
    rcases hfirst position' reason' hfails' with heq | hlt
    · exact heq
    · rcases hfirst' position reason hfails with heq | hgt
      · exact heq.symm
      · exact absurd hgt (Std.Asymm.asymm _ _ hlt)
  subst hsame
  obtain ⟨q, hq, hreason⟩ := hfails
  obtain ⟨q', hq', hreason'⟩ := hfails'
  obtain rfl : q = q' := Option.some.inj (hq.symm.trans hq')
  exact Option.some.inj (hreason.symm.trans hreason')

/-- The first failure in an item comes first in the list if no item before it fails. -/
theorem FailsFirst.list (h : item.FailsFirst reason) (hitem : items[index]? = some item)
    (hbefore : ∀ i other, i < index → items[i]? = some other → ∀ below reason',
      ¬ other.FailsAt below reason') : (Property.list items).FailsFirst reason := by
  obtain ⟨below, hfails, hfirst⟩ := h
  refine ⟨index :: below, failsAt_list.2 ⟨index, below, item, rfl, hitem, hfails⟩, ?_⟩
  intro position reason' hposition
  obtain ⟨i, below', other, rfl, hother, hfails'⟩ := failsAt_list.1 hposition
  rcases Nat.lt_trichotomy i index with hlt | rfl | hgt
  · exact absurd hfails' (hbefore i other hlt hother below' reason')
  · obtain rfl : item = other := Option.some.inj (hitem.symm.trans hother)
    rcases hfirst below' reason' hfails' with rfl | hlt
    · exact .inl rfl
    · exact .inr (.cons hlt)
  · exact .inr (.rel hgt)

end Positions

/-! ## Failures by their positions -/

/-- The first failure in the items of a list is the first in the first item that has one. -/
theorem exists_of_failuresOfItems_eq_cons {items : List Property} {reason : String}
    {more : List String} (h : failuresOfItems items = reason :: more) :
    ∃ (index : Nat) (item : Property) (more' : List String), items[index]? = some item ∧
      item.failures = reason :: more' ∧
        ∀ i other, i < index → items[i]? = some other → other.failures = [] := by
  induction items with
  | nil => exact nomatch h
  | cons item rest ih =>
    rw [failuresOfItems] at h
    cases hitem : item.failures with
    | cons reason' more' =>
      rw [hitem] at h
      obtain rfl := (List.cons.inj h).1
      exact ⟨0, item, more', rfl, hitem, fun i _ hi => absurd hi (Nat.not_lt_zero i)⟩
    | nil =>
      rw [hitem] at h
      obtain ⟨index, item', more', hindex, hitem', hbefore⟩ := ih h
      refine ⟨index + 1, item', more', hindex, hitem', fun i other hi hother => ?_⟩
      cases i with
      | zero =>
        obtain rfl := Option.some.inj hother
        exact hitem
      | succ i => exact hbefore i other (Nat.lt_of_succ_lt_succ hi) hother

/-- Items of a list without failures have none. -/
theorem failures_of_failuresOfItems_eq_nil {items : List Property}
    (h : failuresOfItems items = []) :
    ∀ item ∈ items, item.failures = [] := by
  induction items with
  | nil => exact nofun
  | cons item rest ih =>
    rw [failuresOfItems, List.append_eq_nil_iff] at h
    exact List.forall_mem_cons.2 ⟨h.1, ih h.2⟩

/-- No failure was captured at any position if none is reached through lists. -/
theorem not_failsAt_of_failures_eq_nil {p : Property} (h : p.failures = []) (position : List Nat)
    (reason : String) : ¬ p.FailsAt position reason := by
  induction p using nested_induction generalizing position with
  | failed | unresolved => exact nomatch h
  | absent | files | text | bool | number | object =>
    intro hfails
    exact nomatch (hfails.reason?_eq nofun).2
  | list items ih =>
    intro hfails
    obtain ⟨index, below, item, -, hitem, hbelow⟩ := failsAt_list.1 hfails
    have hmem := List.mem_of_getElem? hitem
    exact ih item hmem (failures_of_failuresOfItems_eq_nil h item hmem) below hbelow

/-- **The first failure that is reached through lists is the one at the first position.** -/
theorem failsFirst_of_failures_eq_cons {p : Property} {reason : String} {more : List String}
    (h : p.failures = reason :: more) : p.FailsFirst reason := by
  induction p using nested_induction generalizing more with
  | absent | files | text | bool | number | object => exact nomatch h
  | failed reason' | unresolved reason' =>
    obtain rfl := (List.cons.inj h).1
    exact ⟨[], failsAt_nil.2 rfl, fun other _ hother => .inl (hother.reason?_eq nofun).1⟩
  | list items ih =>
    obtain ⟨index, item, more', hitem, hfailures, hbefore⟩ := exists_of_failuresOfItems_eq_cons h
    refine (ih item (List.mem_of_getElem? hitem) hfailures).list hitem ?_
    exact fun i other hi hother => not_failsAt_of_failures_eq_nil (hbefore i other hi hother)

/-! ## Values without the items that hold none -/

/-- The property holds the value: the value is built like the property, and in the place of a list
it has a list of the values that the items hold, where items without a value are left out.  The
members of an object are what was captured, whatever that is. -/
inductive Holds : Property → PropertyValue → Prop
  | files (paths : List Path) : Holds (files paths) (.files paths)
  | text (value : String) : Holds (text value) (.text value)
  | bool (value : Bool) : Holds (bool value) (.text (if value then "true" else "false"))
  | number (value : Json.Number) : Holds (number value) (.text (String.ofList value.text))
  | object (members : PropertyMap) : Holds (object members) (.object members)
  | emptyList : Holds (list []) (.list [])
  | absentItem {rest : List Property} {values : List PropertyValue}
      (more : Holds (list rest) (.list values)) : Holds (list (absent :: rest)) (.list values)
  | item {item : Property} {rest : List Property} {value : PropertyValue}
      {values : List PropertyValue} (first : Holds item value)
      (more : Holds (list rest) (.list values)) :
      Holds (list (item :: rest)) (.list (value :: values))

/-- What holds a value has no failures, and that is its value. -/
theorem Holds.held?_eq {p : Property} {value : PropertyValue} (h : p.Holds value) :
    p.failures = [] ∧ p.held? = some value := by
  induction h with
  | files | text | bool | number | object | emptyList => exact ⟨rfl, rfl⟩
  | absentItem _ ih =>
    obtain ⟨hfailures, hheld⟩ := ih
    exact ⟨hfailures, hheld⟩
  | @item item rest value values _ _ ihfirst ihmore =>
    obtain ⟨hfirst, hvalue⟩ := ihfirst
    obtain ⟨hmore, hvalues⟩ := ihmore
    have hrest : heldByItems rest = values := by
      rw [held?] at hvalues
      exact PropertyValue.list.inj (Option.some.inj hvalues)
    refine ⟨?_, ?_⟩
    · rw [failures, failuresOfItems, hfirst]
      exact hmore
    · rw [held?, heldByItems, hvalue, hrest]
      rfl

/-- A property without failures that holds no value is absent. -/
theorem eq_absent_of_held?_eq_none {p : Property} (hfailures : p.failures = [])
    (h : p.held? = none) : p = absent := by
  cases p with
  | absent => rfl
  | failed | unresolved => exact nomatch hfailures
  | files | text | bool | number | list | object => exact nomatch h

/-- A list holds the values of its items, if each of these holds its value. -/
theorem holds_heldByItems {items : List Property} (hfailures : failuresOfItems items = [])
    (h : ∀ item ∈ items, item.failures = [] → ∀ value, item.held? = some value → item.Holds value) :
    (list items).Holds (.list (heldByItems items)) := by
  induction items with
  | nil => exact .emptyList
  | cons item rest ih =>
    obtain ⟨hitem, hrest⟩ := List.append_eq_nil_iff.1 hfailures
    obtain ⟨hholds, hmore⟩ := List.forall_mem_cons.1 h
    rw [heldByItems]
    cases hvalue : item.held? with
    | none =>
      rw [eq_absent_of_held?_eq_none hitem hvalue]
      exact .absentItem (ih hrest hmore)
    | some value => exact .item (hholds hitem value hvalue) (ih hrest hmore)

/-- What a property without failures holds is its value. -/
theorem holds_of_held?_eq {p : Property} {value : PropertyValue} (hfailures : p.failures = [])
    (h : p.held? = some value) : p.Holds value := by
  induction p using nested_induction generalizing value with
  | absent => exact nomatch h
  | failed | unresolved => exact nomatch hfailures
  | files paths => exact Option.some.inj h ▸ .files paths
  | text s => exact Option.some.inj h ▸ .text s
  | bool b => exact Option.some.inj h ▸ .bool b
  | number n => exact Option.some.inj h ▸ .number n
  | object members => exact Option.some.inj h ▸ .object members
  | list items ih =>
    rw [held?, Option.some_inj] at h
    subst h
    exact holds_heldByItems hfailures fun item hitem hnone _ => ih item hitem hnone

/-! ## Results of reading -/

/-- **Reading fails exactly with the failure at the first position.** -/
theorem read_eq_error_iff {name : String} {p : Property} {e : PropertyError} :
    p.read name = .error e ↔ ∃ reason, p.FailsFirst reason ∧ e = .unreadable name reason := by
  rw [read_eq]
  cases hfailures : p.failures with
  | nil =>
    refine ⟨nofun, ?_⟩
    rintro ⟨reason, ⟨position, hfails, -⟩, -⟩
    exact absurd hfails (not_failsAt_of_failures_eq_nil hfailures position reason)
  | cons reason more =>
    have hfirst := failsFirst_of_failures_eq_cons hfailures
    constructor
    · intro h
      exact ⟨reason, hfirst, (Except.error.inj h).symm⟩
    · rintro ⟨reason', hfirst', rfl⟩
      rw [hfirst.unique hfirst']

/-- **Reading gives a value exactly if the property holds it.** -/
theorem read_eq_value_iff {name : String} {p : Property} {value : PropertyValue} :
    p.read name = .ok (some value) ↔ p.Holds value := by
  rw [read_eq]
  constructor
  · intro h
    cases hfailures : p.failures with
    | nil =>
      rw [hfailures] at h
      exact holds_of_held?_eq hfailures (Except.ok.inj h)
    | cons reason more =>
      rw [hfailures] at h
      exact nomatch h
  · intro h
    obtain ⟨hfailures, hvalue⟩ := h.held?_eq
    rw [hfailures, hvalue]

/-- Reading gives no value exactly if the property holds none. -/
theorem read_eq_none_iff {name : String} {p : Property} : p.read name = .ok none ↔ p = absent := by
  constructor
  · intro h
    rw [read_eq] at h
    cases hfailures : p.failures with
    | nil =>
      rw [hfailures] at h
      exact eq_absent_of_held?_eq_none hfailures (Except.ok.inj h)
    | cons reason more =>
      rw [hfailures] at h
      exact nomatch h
  · rintro rfl
    rfl

/-- Reading fails exactly if a failure was captured at some position. -/
theorem exists_read_eq_error_iff {name : String} {p : Property} :
    (∃ e, p.read name = .error e) ↔ ∃ position reason, p.FailsAt position reason := by
  constructor
  · rintro ⟨e, he⟩
    obtain ⟨reason, ⟨position, hfails, -⟩, -⟩ := read_eq_error_iff.1 he
    exact ⟨position, reason, hfails⟩
  · rintro ⟨position, reason, hfails⟩
    cases hfailures : p.failures with
    | nil => exact absurd hfails (not_failsAt_of_failures_eq_nil hfailures position reason)
    | cons reason' more =>
      exact ⟨_, read_eq_error_iff.2 ⟨reason', failsFirst_of_failures_eq_cons hfailures, rfl⟩⟩

/-- **Reading a captured property fails exactly when it must.**  It fails if and only if a failure
was captured in the property itself or in an item that is reached through lists only.  The error is
then that the property of the given name could not be read, for the reason of the first of these
failures from the left.  Otherwise there is no value exactly if the property holds none, and else
the value is built like the property without the items of lists that hold none. -/
theorem reading_fails_iff (name : String) (p : Property) :
    ((∃ e, p.read name = .error e) ↔ ∃ position reason, p.FailsAt position reason) ∧
      (∀ e, p.read name = .error e ↔
        ∃ reason, p.FailsFirst reason ∧ e = .unreadable name reason) ∧
      (p.read name = .ok none ↔ p = absent) ∧
      ∀ value, p.read name = .ok (some value) ↔ p.Holds value :=
  ⟨exists_read_eq_error_iff, fun _ => read_eq_error_iff, read_eq_none_iff,
    fun _ => read_eq_value_iff⟩

end CompositeBuild.Property
