import TraceViewer.Json.Text
import TraceViewer.Simulation.Storm
import TraceViewer.Wire.Fetch

/-!
# The log of a simulation

The log is written with one entry on each line, as a JSON object whose first field
says what kind of entry it is.  An action of a storm is written as an array that
starts with the name of the action.
-/

namespace TraceViewer

/-- A pending fetch as a union with the tag `pending`. -/
def PendingFetch.toJson : PendingFetch → Json
  | .runs => .object [("pending", .string "runs")]
  | .data run request =>
    .object [("pending", .string "data"), ("run", .string run), ("request", request.toJson)]

namespace LogRecord

/-- The named fields of an entry. -/
def toFields : LogRecord → Json.Fields
  | .none => [("record", .string "none")]
  | .batch count => [("record", .string "batch"), ("count", .ofNat count)]
  | .queued fetch => [("record", .string "queued"), ("fetch", fetch.toJson)]
  | .delivered fetch => [("record", .string "delivered"), ("fetch", fetch.toJson)]
  | .failed fetch => [("record", .string "failed"), ("fetch", fetch.toJson)]
  | .rejected event error =>
    [("record", .string "rejected"), ("msg", .string event), ("error", .string error)]

/-- An entry as a union with the tag `record`. -/
def toJson (entry : LogRecord) : Json := .object entry.toFields

/-- The line of an entry. -/
def line (entry : LogRecord) : String := entry.toJson.render ++ "\n"

end LogRecord

/-- An action of a storm: its name, and what it was done to. -/
def StormAction.toJson : StormAction → Json
  | .scrollLeft kind => .array [.string "scroll_left", kind.toJson]
  | .scrollRight kind => .array [.string "scroll_right", kind.toJson]
  | .scrollToIndex kind index => .array [.string "scroll_to_index", kind.toJson, .ofNat index]
  | .deliver index => .array [.string "deliver", .ofNat index]
  | .duplicate index => .array [.string "duplicate", .ofNat index]
  | .fail index => .array [.string "fail", .ofNat index]
  | .idle => .array [.string "idle"]

/-- The log as a text, the oldest entry first. -/
def Simulation.exportLog {Source : Type} (simulation : Simulation Source) : String :=
  String.join (simulation.log.toList.map LogRecord.line)

end TraceViewer
