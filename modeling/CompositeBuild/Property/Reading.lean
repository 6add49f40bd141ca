/-
# Reading properties

Reading a captured property gives a value, no value, or an error for that property alone.  A failure
inside a list fails the list; a failure inside an object is met only when that member is read.

Compile tasks come in two shapes: older ones offer their compiler options under another name.  Both
are read by the same names.
-/
import CompositeBuild.Property.Basic

namespace CompositeBuild

/-! ## Values and errors -/

/-- The value of a property. -/
inductive PropertyValue where
  | text (value : String)
  | list (items : List PropertyValue)
  | files (paths : List Path)
  | object (members : PropertyMap)

/-- The form in which a property is wanted. -/
inductive PropertyForm where
  | text
  | list
  | files
  | object
deriving DecidableEq, Repr

/-- The words for a form. -/
def PropertyForm.describe : PropertyForm → String
  | text => "text"
  | list => "a list"
  | files => "a file collection"
  | object => "an object"

/-- Why a property could not be read. -/
inductive PropertyError where
  | unreadable (name reason : String)
  | unexpectedForm (name : String) (wanted : PropertyForm)
deriving DecidableEq, Repr

/-- The message of a property error. -/
def PropertyError.message : PropertyError → String
  | unreadable name reason => s!"property `{name}` could not be read: {reason}"
  | unexpectedForm name wanted => s!"property `{name}` is not {wanted.describe}"

namespace PropertyValue

/-- The form of a value. -/
def form : PropertyValue → PropertyForm
  | text _ => .text
  | list _ => .list
  | files _ => .files
  | object _ => .object

/-- The text of a value that is text. -/
def asText? : PropertyValue → Option String
  | text value => some value
  | _ => none

/-- The members of a value that is an object. -/
def asObject? : PropertyValue → Option PropertyMap
  | object members => some members
  | _ => none

mutual

/-- The string form of a value. -/
def display : PropertyValue → String
  | text value => value
  | list items => "[" ++ ", ".intercalate (displayItems items) ++ "]"
  | files paths => "[" ++ ", ".intercalate (paths.map Path.text) ++ "]"
  | object _ => "\x7b..\x7d"

/-- The string forms of the items of a list. -/
def displayItems : List PropertyValue → List String
  | [] => []
  | item :: rest => item.display :: displayItems rest

end

end PropertyValue

/-! ## Reading a captured property -/

namespace Property

mutual

/-- The value of a property that was captured under a name, if it holds one. -/
def read (name : String) : Property → Except PropertyError (Option PropertyValue)
  | absent => .ok none
  | failed reason => .error (.unreadable name reason)
  | unresolved reason => .error (.unreadable name reason)
  | files paths => .ok (some (.files paths))
  | text value => .ok (some (.text value))
  | bool value => .ok (some (.text (if value then "true" else "false")))
  | number value => .ok (some (.text (String.ofList value.text)))
  | list items =>
    match readItems name items with
    | .ok values => .ok (some (.list values))
    | .error e => .error e
  | object members => .ok (some (.object members))

/-- The values of the items of a list that hold one. -/
def readItems (name : String) : List Property → Except PropertyError (List PropertyValue)
  | [] => .ok []
  | item :: rest =>
    match item.read name with
    | .error e => .error e
    | .ok value =>
      match readItems name rest with
      | .error e => .error e
      | .ok values => .ok (value.toList ++ values)

end

end Property

/-! ## Task shapes -/

/-- The name of the compiler options of a task. -/
def compilerOptionsName : String := "compilerOptions"

/-- The name under which older tasks offer their compiler options. -/
def legacyOptionsName : String := "kotlinOptions"

/-- The shape of a compile task. -/
inductive TaskShape where
  | modern
  | legacy
deriving DecidableEq, Repr

namespace TaskShape

/-- The shape of a task with the given properties. -/
def ofProperties (properties : PropertyMap) : TaskShape :=
  if !properties.has compilerOptionsName && properties.has legacyOptionsName then legacy
  else modern

/-- The name under which a task of the shape holds the property of a name. -/
def hostName (shape : TaskShape) (name : String) : String :=
  match shape with
  | modern => name
  | legacy => if name = compilerOptionsName then legacyOptionsName else name

end TaskShape

/-! ## Property holders -/

/-- Named properties as they are read: those of an object under their own names, those of a task
through its shape. -/
structure PropertyHolder where
  shape : TaskShape
  properties : PropertyMap

namespace PropertyHolder

/-- The members of an object. -/
def ofObject (members : PropertyMap) : PropertyHolder := ⟨.modern, members⟩

/-- The properties of a task. -/
def ofTask (properties : PropertyMap) : PropertyHolder := ⟨.ofProperties properties, properties⟩

variable (h : PropertyHolder) (name : String)

/-- There is a property of the name, with or without a value. -/
def has : Bool := h.properties.has (h.shape.hostName name)

/-- The value of the property of a name, if it exists and holds one. -/
def value? : Except PropertyError (Option PropertyValue) :=
  match h.properties.get? (h.shape.hostName name) with
  | some property => property.read name
  | none => .ok none

/-- The value of a property that is wanted in some form, through the view that tells values of this
form. -/
def formed? {α : Type} (wanted : PropertyForm) (view : PropertyValue → Option α) :
    Except PropertyError (Option α) :=
  match h.value? name with
  | .error e => .error e
  | .ok none => .ok none
  | .ok (some value) =>
    match view value with
    | some a => .ok (some a)
    | none => .error (.unexpectedForm name wanted)

/-- The text of a property. -/
def text? : Except PropertyError (Option String) := h.formed? name .text PropertyValue.asText?

/-- The items of a property that is a list. -/
def list? : Except PropertyError (Option (List PropertyValue)) :=
  h.formed? name .list fun
    | .list items => some items
    | _ => none

/-- The paths of a property that is a file collection. -/
def files? : Except PropertyError (Option (List Path)) :=
  h.formed? name .files fun
    | .files paths => some paths
    | _ => none

/-- The members of a property that is an object. -/
def object? : Except PropertyError (Option PropertyHolder) :=
  h.formed? name .object fun value => value.asObject?.map ofObject

end PropertyHolder

end CompositeBuild
