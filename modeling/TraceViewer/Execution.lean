import Std.Data.ExtTreeMap
import TraceViewer.StackFrame

/-!
# Runs and executions

A run of the observed program has two sequences: its top-level executions, and
the executions of the tensors inside its graphs.  A digest is the part of a record
that a list of records shows.
-/

namespace TraceViewer

/-- The id of a run. -/
abbrev RunId := String

/-- What the listing of the runs says about one run. -/
structure RunMetadata where
  /-- When the run started, in seconds. -/
  startTime : Float
deriving Repr, Inhabited

/-- The runs that a source lists. -/
abbrev RunListing := Std.ExtTreeMap RunId RunMetadata

/-! ## How much of a tensor was recorded -/

/-- How much of the tensors of an execution was recorded. -/
inductive TensorDebugMode where
  | unspecified
  | noTensor
  | curtHealth
  | conciseHealth
  | fullHealth
  | shape
  | fullNumerics
  | fullTensor
  | reduceInfNanThreeSlots
deriving Repr, DecidableEq, Inhabited

namespace TensorDebugMode

/-- The number by which the observed program knows a mode. -/
def code : TensorDebugMode → Nat
  | .unspecified => 0
  | .noTensor => 1
  | .curtHealth => 2
  | .conciseHealth => 3
  | .fullHealth => 4
  | .shape => 5
  | .fullNumerics => 6
  | .fullTensor => 7
  | .reduceInfNanThreeSlots => 8

/-- The mode with a given number. -/
def ofCode? : Int → Option TensorDebugMode
  | 0 => some .unspecified
  | 1 => some .noTensor
  | 2 => some .curtHealth
  | 3 => some .conciseHealth
  | 4 => some .fullHealth
  | 5 => some .shape
  | 6 => some .fullNumerics
  | 7 => some .fullTensor
  | 8 => some .reduceInfNanThreeSlots
  | _ => none

/-- What is said about a number that belongs to no mode. -/
def unknownCodeMessage (code : Int) : String := s!"unknown tensor debug mode: {code}"

@[simp]
theorem ofCode?_code (mode : TensorDebugMode) : ofCode? mode.code = some mode := by
  cases mode <;> rfl

end TensorDebugMode

/-! ## Top-level executions -/

/-- What a list of executions shows of one execution. -/
structure ExecutionDigest where
  opType : String
  outputDeviceIds : List String
deriving Repr, DecidableEq, Inhabited

/-- The record of a top-level execution. -/
structure Execution where
  opType : String
  outputDeviceIds : List String
  hostName : String
  frameIds : List FrameId
  debugMode : TensorDebugMode
  /-- The compiled graph that was run, if it was one. -/
  graphId : Option String
  inputTensorIds : List Int64
  outputTensorIds : List Int64
  debugTensorValues : Option (List (Option (List Float)))
deriving Repr, Inhabited

/-- The digest of an execution. -/
def Execution.digest (execution : Execution) : ExecutionDigest :=
  { opType := execution.opType, outputDeviceIds := execution.outputDeviceIds }

/-! ## Executions inside graphs -/

/-- What a list of graph executions shows of one of them. -/
structure GraphExecutionDigest where
  graphId : String
  opName : String
  opType : String
  outputSlot : UInt32
deriving Repr, DecidableEq, Inhabited

/-- The record of one tensor computed inside a graph. -/
structure GraphExecution where
  /-- The innermost graph around the op. -/
  graphId : String
  opName : String
  opType : String
  outputSlot : UInt32
  /-- The graphs around the op, the outermost first. -/
  graphIds : List String
  debugMode : TensorDebugMode
  debugTensorValue : Option (List Float)
  deviceName : String
deriving Repr, Inhabited

/-- The digest of a graph execution. -/
def GraphExecution.digest (execution : GraphExecution) : GraphExecutionDigest :=
  { graphId := execution.graphId
    opName := execution.opName
    opType := execution.opType
    outputSlot := execution.outputSlot }

end TraceViewer
