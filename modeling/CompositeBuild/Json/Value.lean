/-
# JSON values

A JSON value, with the members of an object in the order in which they are written.
-/
import CompositeBuild.Json.Number

namespace CompositeBuild

/-- A JSON value. -/
inductive Json where
  | null
  | bool (value : Bool)
  | number (value : Json.Number)
  | string (value : String)
  | array (items : List Json)
  | object (members : List (String × Json))

namespace Json

instance : Inhabited Json := ⟨null⟩

/-! ## Nesting -/

mutual

/-- How many arrays and objects are nested in each other. -/
def depth : Json → Nat
  | array items => depthOfItems items + 1
  | object members => depthOfMembers members + 1
  | _ => 0

/-- The greatest depth among the items of an array. -/
def depthOfItems : List Json → Nat
  | [] => 0
  | item :: rest => max item.depth (depthOfItems rest)

/-- The greatest depth among the values of the members of an object. -/
def depthOfMembers : List (String × Json) → Nat
  | [] => 0
  | (_, value) :: rest => max value.depth (depthOfMembers rest)

end

/-! ## Building objects -/

/-- A member that is left out when there is no value. -/
def optionalMember (key : String) (value : Option Json) : List (String × Json) :=
  match value with
  | some v => [(key, v)]
  | none => []

/-- The array of the strings. -/
def strings (texts : List String) : Json := array (texts.map string)

/-- The text, or null. -/
def ofText? : Option String → Json
  | some text => string text
  | none => null

/-! ## Looking into values -/

/-- The value of a member of an object; of repeated keys the last counts. -/
def member? (key : String) : Json → Option Json
  | object members => (members.reverse.find? (·.1 = key)).map (·.2)
  | _ => none

/-! ## Sorted objects -/

/-- Puts a member into a list that is sorted by key, replacing the value of a key that is
present. -/
def setMember (key : String) (value : Json) : List (String × Json) → List (String × Json)
  | [] => [(key, value)]
  | entry :: rest =>
    match compare key entry.1 with
    | .lt => (key, value) :: entry :: rest
    | .eq => (key, value) :: rest
    | .gt => entry :: setMember key value rest

mutual

/-- The value with the members of every object sorted by key; of repeated keys the last stays. -/
def sorted : Json → Json
  | array items => array (sortedItems items)
  | object members => object ((sortedMembers members).foldl (fun ms m => setMember m.1 m.2 ms) [])
  | other => other

/-- The items, each of them sorted. -/
def sortedItems : List Json → List Json
  | [] => []
  | item :: rest => item.sorted :: sortedItems rest

/-- The members in their order, each value sorted. -/
def sortedMembers : List (String × Json) → List (String × Json)
  | [] => []
  | (key, value) :: rest => (key, value.sorted) :: sortedMembers rest

end

end Json

end CompositeBuild
