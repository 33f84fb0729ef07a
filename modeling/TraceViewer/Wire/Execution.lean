import TraceViewer.Wire.Basic
import TraceViewer.Execution

/-!
# Runs and executions on the wire

How much of a tensor was recorded is written as a number.  The values of tensors are
lists of floating-point numbers, any of which may be written as a whole.
-/

namespace TraceViewer

namespace RunMetadata

/-- The fields of the metadata of a run. -/
def layout : Json.Layout := { names := ["start_time"], least := 1 }

/-- The metadata of a run as a record. -/
def toJson (metadata : RunMetadata) : Json :=
  .object [("start_time", .decimal metadata.startTime)]

/-- The metadata that a record describes. -/
def ofJson? (json : Json) : Option RunMetadata := do
  let fields ← json.record? layout
  return { startTime := ← fields.required "start_time" Json.float? }

end RunMetadata

namespace RunListing

/-- A listing of runs as an object, by id. -/
def toJson (runs : RunListing) : Json :=
  .object (runs.toList.map fun (run, metadata) => (run, metadata.toJson))

/-- The listing of runs that an object describes. -/
def ofJson? (json : Json) : Option RunListing :=
  (json.entries? RunMetadata.ofJson?).map fun entries => .ofList entries

end RunListing

namespace TensorDebugMode

/-- A mode as its number. -/
def toJson (mode : TensorDebugMode) : Json := .ofNat mode.code

/-- The mode that a number denotes. -/
def ofJson? (json : Json) : Option TensorDebugMode := json.integer?.bind ofCode?

end TensorDebugMode

namespace Json

/-- The values of one tensor. -/
def ofFloats (values : List Float) : Json := ofList .decimal values

/-- The values of one tensor. -/
def floats? (json : Json) : Option (List Float) := json.list? float?

end Json

namespace ExecutionDigest

/-- The fields of the digest of an execution. -/
def layout : Json.Layout := { names := ["op_type", "output_tensor_device_ids"], least := 1 }

/-- The digest of an execution as a record. -/
def toJson (digest : ExecutionDigest) : Json :=
  .object
    [("op_type", .string digest.opType),
      ("output_tensor_device_ids", .ofStrings digest.outputDeviceIds)]

/-- The digest that a record describes. -/
def ofJson? (json : Json) : Option ExecutionDigest := do
  let fields ← json.record? layout
  return {
    opType := ← fields.required "op_type" Json.string?
    outputDeviceIds := ← fields.defaulted "output_tensor_device_ids" Json.strings? [] }

end ExecutionDigest

namespace Execution

/-- The fields of an execution. -/
def layout : Json.Layout :=
  { names :=
      ["op_type", "output_tensor_device_ids", "host_name", "stack_frame_ids",
        "tensor_debug_mode", "graph_id", "input_tensor_ids", "output_tensor_ids",
        "debug_tensor_values"]
    least := 4 }

/-- An execution as a record. -/
def toJson (execution : Execution) : Json :=
  .object
    [("op_type", .string execution.opType),
      ("output_tensor_device_ids", .ofStrings execution.outputDeviceIds),
      ("host_name", .string execution.hostName),
      ("stack_frame_ids", .ofStrings execution.frameIds),
      ("tensor_debug_mode", execution.debugMode.toJson),
      ("graph_id", .ofOption .string execution.graphId),
      ("input_tensor_ids", .ofList .ofInt64 execution.inputTensorIds),
      ("output_tensor_ids", .ofList .ofInt64 execution.outputTensorIds),
      ("debug_tensor_values",
        .ofOption (.ofList (.ofOption .ofFloats)) execution.debugTensorValues)]

/-- The execution that a record describes. -/
def ofJson? (json : Json) : Option Execution := do
  let fields ← json.record? layout
  return {
    opType := ← fields.required "op_type" Json.string?
    outputDeviceIds := ← fields.defaulted "output_tensor_device_ids" Json.strings? []
    hostName := ← fields.required "host_name" Json.string?
    frameIds := ← fields.required "stack_frame_ids" Json.strings?
    debugMode := ← fields.defaulted "tensor_debug_mode" TensorDebugMode.ofJson? .unspecified
    graphId := ← fields.nullable "graph_id" Json.string?
    inputTensorIds := ← fields.defaulted "input_tensor_ids" (Json.list? Json.int64?) []
    outputTensorIds := ← fields.defaulted "output_tensor_ids" (Json.list? Json.int64?) []
    debugTensorValues :=
      ← fields.nullable "debug_tensor_values" (Json.list? (Json.option? Json.floats?)) }

end Execution

namespace GraphExecutionDigest

/-- The fields of the digest of a graph execution. -/
def layout : Json.Layout :=
  { names := ["graph_id", "op_name", "op_type", "output_slot"], least := 4 }

/-- The digest of a graph execution as a record. -/
def toJson (digest : GraphExecutionDigest) : Json :=
  .object
    [("graph_id", .string digest.graphId), ("op_name", .string digest.opName),
      ("op_type", .string digest.opType), ("output_slot", .ofUInt32 digest.outputSlot)]

/-- The digest that a record describes. -/
def ofJson? (json : Json) : Option GraphExecutionDigest := do
  let fields ← json.record? layout
  return {
    graphId := ← fields.required "graph_id" Json.string?
    opName := ← fields.required "op_name" Json.string?
    opType := ← fields.required "op_type" Json.string?
    outputSlot := ← fields.required "output_slot" Json.uint32? }

end GraphExecutionDigest

namespace GraphExecution

/-- The fields of a graph execution. -/
def layout : Json.Layout :=
  { names :=
      ["graph_id", "op_name", "op_type", "output_slot", "graph_ids", "tensor_debug_mode",
        "debug_tensor_value", "device_name"]
    least := 4 }

/-- A graph execution as a record. -/
def toJson (execution : GraphExecution) : Json :=
  .object
    [("graph_id", .string execution.graphId), ("op_name", .string execution.opName),
      ("op_type", .string execution.opType), ("output_slot", .ofUInt32 execution.outputSlot),
      ("graph_ids", .ofStrings execution.graphIds),
      ("tensor_debug_mode", execution.debugMode.toJson),
      ("debug_tensor_value", .ofOption .ofFloats execution.debugTensorValue),
      ("device_name", .string execution.deviceName)]

/-- The graph execution that a record describes. -/
def ofJson? (json : Json) : Option GraphExecution := do
  let fields ← json.record? layout
  return {
    graphId := ← fields.required "graph_id" Json.string?
    opName := ← fields.required "op_name" Json.string?
    opType := ← fields.required "op_type" Json.string?
    outputSlot := ← fields.required "output_slot" Json.uint32?
    graphIds := ← fields.defaulted "graph_ids" Json.strings? []
    debugMode := ← fields.defaulted "tensor_debug_mode" TensorDebugMode.ofJson? .unspecified
    debugTensorValue := ← fields.nullable "debug_tensor_value" Json.floats?
    deviceName := ← fields.defaulted "device_name" Json.string? "" }

end GraphExecution

end TraceViewer
