import TraceViewer.Wire.Alert
import TraceViewer.Wire.Execution
import TraceViewer.Wire.GraphOp
import TraceViewer.Wire.Source
import TraceViewer.Fetch

/-!
# Requests and replies on the wire

Both are unions with the tag `kind`.  A range is written as its two ends, in the
fields `begin` and `end`.
-/

namespace TraceViewer

namespace SequenceKind

/-- The name of a sequence. -/
def name : SequenceKind → String
  | .executions => "executions"
  | .graphExecutions => "graph_executions"

/-- The sequence with a given name. -/
def ofName? : String → Option SequenceKind
  | "executions" => some .executions
  | "graph_executions" => some .graphExecutions
  | _ => none

/-- A sequence as its name. -/
def toJson (kind : SequenceKind) : Json := .string kind.name

/-- The sequence that a value names. -/
def ofJson? (json : Json) : Option SequenceKind := json.name?.bind ofName?

/-- The sequence that a value inside a union names. -/
def ofEnclosedJson? (json : Json) : Option SequenceKind := json.enclosedName?.bind ofName?

end SequenceKind

namespace Interval

/-- The two ends of a range as named fields. -/
def toFields (range : Interval) : Json.Fields :=
  [("begin", .ofNat range.start), ("end", .ofNat range.stop)]

/-- The range whose two ends are among the fields of a record. -/
def ofFields? (fields : Json.Fields) : Option Interval := do
  return {
    start := ← fields.required "begin" Json.nat?
    stop := ← fields.required "end" Json.nat? }

end Interval

/-! ## Requests -/

namespace Request

/-- The tag of a request. -/
def tag : Request → String
  | .numExecutions => "num_executions"
  | .numGraphExecutions => "num_graph_executions"
  | .page _ _ => "page"
  | .executionData _ => "execution_data"
  | .stackFrames _ => "stack_frames"
  | .graphOpInfo _ => "graph_op_info"
  | .sourceFileList => "source_file_list"
  | .sourceFile _ => "source_file"
  | .numAlertsAndBreakdown => "num_alerts_and_breakdown"
  | .alertsOfType _ _ => "alerts_of_type"

/-- The named fields of a request, without the tag. -/
def toFields : Request → Json.Fields
  | .numExecutions => []
  | .numGraphExecutions => []
  | .page sequence range => ("sequence", sequence.toJson) :: range.toFields
  | .executionData range => range.toFields
  | .stackFrames ids => [("ids", .ofStrings ids)]
  | .graphOpInfo key => [("key", key.toJson)]
  | .sourceFileList => []
  | .sourceFile file => [("file", file.toJson)]
  | .numAlertsAndBreakdown => []
  | .alertsOfType alertType range => ("alert_type", alertType.toJson) :: range.toFields

/-- A request as a union. -/
def toJson (request : Request) : Json :=
  .object (("kind", .string request.tag) :: request.toFields)

/-- The content of a request with a given tag. -/
def ofContent? (tag : String) (content : Json) : Option Request :=
  match tag with
  | "num_executions" => content.unit?.map fun _ => .numExecutions
  | "num_graph_executions" => content.unit?.map fun _ => .numGraphExecutions
  | "page" => do
    let fields ← content.record? { names := ["sequence", "begin", "end"], least := 3 }
    return .page (← fields.required "sequence" SequenceKind.ofEnclosedJson?)
      (← Interval.ofFields? fields)
  | "execution_data" => do
    let fields ← content.record? { names := ["begin", "end"], least := 2 }
    return .executionData (← Interval.ofFields? fields)
  | "stack_frames" => do
    let fields ← content.record? { names := ["ids"], least := 1 }
    return .stackFrames (← fields.required "ids" Json.strings?)
  | "graph_op_info" => do
    let fields ← content.record? { names := ["key"], least := 1 }
    return .graphOpInfo (← fields.required "key" GraphOpKey.ofJson?)
  | "source_file_list" => content.unit?.map fun _ => .sourceFileList
  | "source_file" => do
    let fields ← content.record? { names := ["file"], least := 1 }
    return .sourceFile (← fields.required "file" SourceFile.ofJson?)
  | "num_alerts_and_breakdown" => content.unit?.map fun _ => .numAlertsAndBreakdown
  | "alerts_of_type" => do
    let fields ← content.record? { names := ["alert_type", "begin", "end"], least := 3 }
    return .alertsOfType (← fields.required "alert_type" AlertType.ofEnclosedJson?)
      (← Interval.ofFields? fields)
  | _ => none

/-- The request that a union describes. -/
def ofJson? (json : Json) : Option Request := do
  let (tag, content) ← json.union? "kind"
  ofContent? (← tag.string?) content

end Request

/-! ## Replies -/

namespace Batch

variable {α : Type}

/-- The fields of a batch. -/
def layout : Json.Layout := { names := ["begin", "end", "items", "total"], least := 4 }

/-- The named fields of a batch. -/
def toFields (encode : α → Json) (batch : Batch α) : Json.Fields :=
  batch.range.toFields ++
    [("items", .ofList encode batch.items), ("total", .ofNat batch.total)]

/-- A batch as a record. -/
def toJson (encode : α → Json) (batch : Batch α) : Json := .object (batch.toFields encode)

/-- The batch that a record describes. -/
def ofJson? (read : Json → Option α) (json : Json) : Option (Batch α) := do
  let fields ← json.record? layout
  return {
    range := ← Interval.ofFields? fields
    items := ← fields.required "items" (Json.list? read)
    total := ← fields.required "total" Json.nat? }

end Batch

namespace Reply

/-- The tag of a reply. -/
def tag : Reply → String
  | .numExecutions _ => "num_executions"
  | .numGraphExecutions _ => "num_graph_executions"
  | .executionDigests _ => "execution_digests"
  | .graphExecutions _ => "graph_executions"
  | .executionData _ _ => "execution_data"
  | .stackFrames _ => "stack_frames"
  | .graphOpInfo _ => "graph_op_info"
  | .sourceFileList _ => "source_file_list"
  | .sourceFile _ _ => "source_file"
  | .numAlertsAndBreakdown _ => "num_alerts_and_breakdown"
  | .alertsOfType _ _ _ _ => "alerts_of_type"

/-- The named fields of a reply, without the tag. -/
def toFields : Reply → Json.Fields
  | .numExecutions total => [("total", .ofNat total)]
  | .numGraphExecutions total => [("total", .ofNat total)]
  | .executionDigests batch => batch.toFields ExecutionDigest.toJson
  | .graphExecutions batch => batch.toFields GraphExecution.toJson
  | .executionData range executions =>
    range.toFields ++ [("executions", .ofList Execution.toJson executions)]
  | .stackFrames frames => [("frames", FrameTable.toJson frames)]
  | .graphOpInfo op => [("op", op.toJson)]
  | .sourceFileList files => [("files", .ofList SourceFile.toJson files)]
  | .sourceFile file lines => [("file", file.toJson), ("lines", .ofStrings lines)]
  | .numAlertsAndBreakdown tally => tally.toFields
  | .alertsOfType alertType range tally alerts =>
    ("alert_type", alertType.toJson) :: range.toFields ++
      [("breakdown", tally.toJson), ("alerts", .ofList Alert.toJson alerts)]

/-- A reply as a union. -/
def toJson (reply : Reply) : Json := .object (("kind", .string reply.tag) :: reply.toFields)

/-- The content of a reply with a given tag. -/
def ofContent? (tag : String) (content : Json) : Option Reply :=
  match tag with
  | "num_executions" => do
    let fields ← content.record? { names := ["total"], least := 1 }
    return .numExecutions (← fields.required "total" Json.nat?)
  | "num_graph_executions" => do
    let fields ← content.record? { names := ["total"], least := 1 }
    return .numGraphExecutions (← fields.required "total" Json.nat?)
  | "execution_digests" => (Batch.ofJson? ExecutionDigest.ofJson? content).map .executionDigests
  | "graph_executions" => (Batch.ofJson? GraphExecution.ofJson? content).map .graphExecutions
  | "execution_data" => do
    let fields ← content.record? { names := ["begin", "end", "executions"], least := 3 }
    return .executionData (← Interval.ofFields? fields)
      (← fields.required "executions" (Json.list? Execution.ofJson?))
  | "stack_frames" => do
    let fields ← content.record? { names := ["frames"], least := 1 }
    return .stackFrames (← fields.required "frames" FrameTable.ofJson?)
  | "graph_op_info" => do
    let fields ← content.record? { names := ["op"], least := 1 }
    return .graphOpInfo (← fields.required "op" GraphOp.ofJson?)
  | "source_file_list" => do
    let fields ← content.record? { names := ["files"], least := 1 }
    return .sourceFileList (← fields.required "files" (Json.list? SourceFile.ofJson?))
  | "source_file" => do
    let fields ← content.record? { names := ["file", "lines"], least := 2 }
    return .sourceFile (← fields.required "file" SourceFile.ofJson?)
      (← fields.required "lines" Json.strings?)
  | "num_alerts_and_breakdown" => (AlertTally.ofJson? content).map .numAlertsAndBreakdown
  | "alerts_of_type" => do
    let fields ← content.record?
      { names := ["alert_type", "begin", "end", "breakdown", "alerts"], least := 5 }
    return .alertsOfType (← fields.required "alert_type" AlertType.ofEnclosedJson?)
      (← Interval.ofFields? fields) (← fields.required "breakdown" AlertTally.ofJson?)
      (← fields.required "alerts" (Json.list? Alert.ofEnclosedJson?))
  | _ => none

/-- The reply that a union describes. -/
def ofJson? (json : Json) : Option Reply := do
  let (tag, content) ← json.union? "kind"
  ofContent? (← tag.string?) content

end Reply

end TraceViewer
