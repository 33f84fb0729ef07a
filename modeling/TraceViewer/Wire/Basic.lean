import TraceViewer.Json.Reader
import TraceViewer.Json.Record
import TraceViewer.LoadState

/-!
# The wire format

Records travel as JSON objects whose field names are in snake case, enumerations as
names in snake case, and unions as objects with a tag.  For every type `toJson`
writes a value and `ofJson?` reads one.

This module holds what the modules beside it share, and the load states.
-/

namespace TraceViewer

namespace Json

/-- A 32-bit number as a JSON integer. -/
def ofUInt32 (n : UInt32) : Json := .ofNat n.toNat

/-- A signed 64-bit number as a JSON integer. -/
def ofInt64 (n : Int64) : Json := .integer n.toInt

/-- A list of strings. -/
def ofStrings (texts : List String) : Json := ofList .string texts

/-- A list of strings. -/
def strings? (json : Json) : Option (List String) := json.list? string?

/-- Read the value that a text denotes.  Where `whole` is set, no part of the text may
be unreadable, not even one that is skipped. -/
def readText {α : Type} (whole : Bool) (read : Json → Option α) (text : String) : Option α := do
  let json ← ofText? text
  if whole && !json.isReadable then none else read json

end Json

/-! ## Load states -/

namespace LoadPhase

/-- The name of a loading stage. -/
def name : LoadPhase → String
  | .notLoaded => "not_loaded"
  | .loading => "loading"
  | .loaded => "loaded"
  | .failed => "failed"

/-- The loading stage with a given name. -/
def ofName? : String → Option LoadPhase
  | "not_loaded" => some .notLoaded
  | "loading" => some .loading
  | "loaded" => some .loaded
  | "failed" => some .failed
  | _ => none

/-- A loading stage as its name. -/
def toJson (phase : LoadPhase) : Json := .string phase.name

/-- The loading stage that a value names. -/
def ofJson? (json : Json) : Option LoadPhase := json.name?.bind ofName?

end LoadPhase

namespace LoadState

/-- The fields of a load state. -/
def layout : Json.Layout := { names := ["state", "last_loaded_ms"], least := 2 }

/-- A load state as a record. -/
def toJson (state : LoadState) : Json :=
  .object
    [("state", state.phase.toJson), ("last_loaded_ms", .ofOption .ofNat state.lastLoaded)]

/-- The load state that a record describes. -/
def ofJson? (json : Json) : Option LoadState := do
  let fields ← json.record? layout
  return {
    phase := ← fields.required "state" LoadPhase.ofJson?
    lastLoaded := ← fields.nullable "last_loaded_ms" Json.nat? }

end LoadState

end TraceViewer
