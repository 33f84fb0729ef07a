import TraceViewer.StackFrame

/-!
# Graph ops

An op of a graph knows the ops that feed it and the ops that it feeds.  Where a
source sends an op together with its neighbours, each neighbour is embedded in the
edge that leads to it, and may embed neighbours of its own.
-/

namespace TraceViewer

/-- Names an op inside a graph. -/
structure GraphOpKey where
  graphId : String
  opName : String
deriving Repr, DecidableEq, Inhabited

/-- An edge from the op that feeds an input. -/
structure OpInput (Op : Type) where
  opName : String
  /-- The output of that op which is read. -/
  outputSlot : UInt32
  /-- The op itself, when it is embedded. -/
  data : Option Op
deriving Repr, DecidableEq, Inhabited

/-- An edge to an op that reads an output. -/
structure OpConsumer (Op : Type) where
  opName : String
  /-- The input of that op which reads. -/
  inputSlot : UInt32
  /-- The op itself, when it is embedded. -/
  data : Option Op
deriving Repr, DecidableEq, Inhabited

/-- An op of a graph. -/
structure GraphOp where
  opType : String
  opName : String
  /-- The graphs around the op, the outermost first. -/
  graphIds : List String
  numOutputs : UInt32
  hostName : String
  deviceName : Option String
  /-- The call stack that created the op. -/
  frameIds : List FrameId
  inputs : List (OpInput GraphOp)
  /-- The consumers of every output. -/
  consumers : List (List (OpConsumer GraphOp))
deriving Inhabited

namespace GraphOp

/-- The innermost graph around an op. -/
def graphId? (op : GraphOp) : Option String := op.graphIds.getLast?

/-- An op whose edges carry what `lookup` finds under the names of its neighbours. -/
def embed (op : GraphOp) (lookup : String → Option GraphOp) : GraphOp :=
  { op with
    inputs := op.inputs.map fun input => { input with data := lookup input.opName }
    consumers := op.consumers.map fun slot =>
      slot.map fun consumer => { consumer with data := lookup consumer.opName } }

/-- An op without embedded neighbours. -/
def stripped (op : GraphOp) : GraphOp := op.embed fun _ => none

/-- The neighbours embedded in an op, those that feed it first. -/
def neighbours (op : GraphOp) : List GraphOp :=
  op.inputs.filterMap (·.data) ++ op.consumers.flatten.filterMap (·.data)

end GraphOp

end TraceViewer
