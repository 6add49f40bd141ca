/-
# Fetched models

A host answers a query with a model, with failures, with both or with neither.
-/
import CompositeBuild.Json.Record

namespace CompositeBuild

/-! ## Failures -/

/-- A failure that a host reports. -/
structure Failure where
  message : String
  description : Option String
deriving DecidableEq, Repr

namespace Failure

/-- The failure of a message. -/
def ofMessage (message : String) : Failure := ⟨message, none⟩

/-- The text of a failure: its message, and its description in parentheses if it has one. -/
def display (f : Failure) : String :=
  match f.description with
  | some description => s!"{f.message} ({description})"
  | none => f.message

/-- The JSON form of a failure. -/
def toJson (f : Failure) : Json :=
  .object <|
    [("message", .string f.message)] ++
    Json.optionalMember "description" (f.description.map .string)

/-- Decodes a failure. -/
def decoder : Json.Decoder Failure :=
  .record "Failure"
    (fun room =>
      .cons (.required "message" (Json.Decoder.string room)) <|
      .cons (.optional "description" (Json.Decoder.string room)) .nil)
    fun (message, description, _) => ⟨message, description⟩

end Failure

/-! ## Answers -/

/-- The answer of a host: a model, failures, or both. -/
structure Fetched (α : Type) where
  model : Option α
  failures : List Failure
deriving DecidableEq, Repr

namespace Fetched

variable {α : Type}

/-- There is nothing to report. -/
def absent : Fetched α := ⟨none, []⟩

/-- The answer of a model that may be missing. -/
def ofOption (model : Option α) : Fetched α := ⟨model, []⟩

/-- The answer that failed for the reasons of the messages. -/
def failed (messages : List String) : Fetched α := ⟨none, messages.map Failure.ofMessage⟩

/-- Adds failures with the given messages. -/
def withFailures (f : Fetched α) (messages : List String) : Fetched α :=
  { f with failures := f.failures ++ messages.map Failure.ofMessage }

/-- The host reported failures. -/
def hasFailures (f : Fetched α) : Bool := !f.failures.isEmpty

end Fetched

end CompositeBuild
