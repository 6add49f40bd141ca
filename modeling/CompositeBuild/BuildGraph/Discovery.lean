/-
# Discovery of builds

Which builds of a composite are visited, and in what order.  Hosts up to version 8.0.0 offer only
the included builds reliably; later ones are asked for their editable builds first, which are
sometimes empty although the root build includes others.
-/
import CompositeBuild.BuildGraph
import CompositeBuild.HostVersion

namespace CompositeBuild

/-! ## Strategies and views -/

/-- Which view of a composite is trusted. -/
inductive DiscoveryStrategy where
  /-- The included builds only. -/
  | legacy
  /-- The editable builds unless there are none, and then the included builds. -/
  | preferEditable
deriving DecidableEq, Repr

namespace DiscoveryStrategy

/-- The last version whose hosts offer only the included builds reliably. -/
def lastLegacyVersion : HostVersion := ⟨8, 0, 0⟩

/-- The strategy for a version. -/
def forVersion (v : HostVersion) : DiscoveryStrategy :=
  if (compare v lastLegacyVersion).isLE then legacy else preferEditable

/-- The name of a strategy in JSON. -/
def name : DiscoveryStrategy → String
  | legacy => "legacy"
  | preferEditable => "preferEditable"

/-- The word for a strategy in a message. -/
def word : DiscoveryStrategy → String
  | legacy => "Legacy"
  | preferEditable => "PreferEditable"

/-! ## Decoding -/

/-- The strategy of a name. -/
def ofName (text : String) : Except Json.DecodeError DiscoveryStrategy :=
  if text = legacy.name then .ok legacy
  else if text = preferEditable.name then .ok preferEditable
  else .error (.data (.unknownVariant text [legacy.name, preferEditable.name]))

/-- What may follow the only member of an object that stands for a strategy. -/
def expectEnd : Json.Members → Except Json.DecodeError Unit
  | .done => .ok ()
  | .cut fault => .error (.text fault)
  | _ => .error (.text .malformed)

/-- Decodes a strategy: its name, or an object with its name for a key and null for the value. -/
def decoder : Json.Decoder DiscoveryStrategy
  | _, .string text => ofName text
  | 0, .object _ => .error (.text .malformed)
  | room + 1, .object members =>
    match members with
    | .done => .error (.text .malformed)
    | .cut fault => .error (.text fault)
    | .badKey decoded _ => .error (.text decoded)
    | .more none _ _ => .error (.text .malformed)
    | .more (some key) value rest => do
      let strategy ← ofName key
      Json.Decoder.unit room value
      expectEnd rest
      return strategy
  | _, .faulty decoded _ => .error (.text decoded)
  | _, _ => .error (.text .malformed)

/-- Reads a text that holds a strategy.  Such a text is malformed at its first character if that
starts neither a string nor an object. -/
def ofText (text : String) : Except Json.DecodeError DiscoveryStrategy :=
  match Json.skipBlanks text.toList with
  | [] => .error (.text .unfinished)
  | c :: _ =>
    if c = '"' ∨ c = '{' then decoder.fromText text else .error (.text .malformed)

/-- Decodes a strategy that is in memory. -/
def ofValue (value : Json) : Except Json.DecodeError DiscoveryStrategy :=
  match value with
  | .string text => ofName text
  | .object [(key, value)] => do
    let strategy ← ofName key
    Json.Decoder.unit.fromValue value
    return strategy
  | .object _ => .error (.data (.wrongValue .map "map with a single key"))
  | other => .error (other.toNode.mismatch "string or map")

end DiscoveryStrategy

/-- A view of a composite. -/
inductive BuildView where
  | included
  | editable
deriving DecidableEq, Repr

/-- The view that a strategy selects. -/
def BuildGraph.view (g : BuildGraph) (strategy : DiscoveryStrategy) : BuildView :=
  match strategy with
  | .legacy => .included
  | .preferEditable => if g.editableBuilds.isEmpty then .included else .editable

/-! ## Walking the views -/

namespace BuildRef

/-- A build of that name is among those found. -/
def isNamedIn (name : String) (found : List BuildRef) : Bool := found.any (·.name == name)

/-- The first build of each name other than the root's. -/
def firstOfEach (root : String) (builds : List BuildRef) : List BuildRef :=
  builds.foldl
    (fun found b => if b.name = root ∨ isNamedIn b.name found then found else found ++ [b]) []

/-- Walks the builds in a queue breadth first: a build that is new and not the root is found, and
the builds that it includes join the end of the queue. -/
def walk (root : String) (found : List BuildRef) : List BuildRef → List BuildRef
  | [] => found
  | b :: queue =>
    if b.name = root ∨ isNamedIn b.name found then walk root found queue
    else walk root (found ++ [b]) (queue ++ b.included)
  termination_by queue => sizeOfAll queue
  decreasing_by
    · simp only [sizeOfAll]
      cases b
      simp [size]
    · have sizeOfAll_append (xs ys : List BuildRef) :
          sizeOfAll (xs ++ ys) = sizeOfAll xs + sizeOfAll ys := by
        induction xs with
        | nil => simp [sizeOfAll]
        | cons x rest ih => simp [sizeOfAll, ih, Nat.add_assoc]
      rw [sizeOfAll_append]
      cases b
      simp only [sizeOfAll, size]
      omega

end BuildRef

/-- The builds to visit, in order, without the root build and with one build of each name. -/
def BuildGraph.discover (g : BuildGraph) (strategy : DiscoveryStrategy) (root : String) :
    List BuildRef :=
  match g.view strategy with
  | .editable => BuildRef.firstOfEach root g.editableBuilds
  | .included => BuildRef.walk root [] g.includedBuilds

end CompositeBuild
