import Std.Data.ExtTreeMap

/-!
# Alerts

A source raises alerts about suspicious executions.  There are three kinds, and
each kind of alert has its own record.  An alert may point at a top-level
execution and at an execution inside a graph.
-/

namespace TraceViewer

/-- The kinds of alerts. -/
inductive AlertType where
  | functionRecompiles
  | infNan
  | tensorShape
deriving Repr, DecidableEq, Inhabited

namespace AlertType

/-- Every kind of alert. -/
def all : List AlertType := [.functionRecompiles, .infNan, .tensorShape]

/-- The name of a kind. -/
def name : AlertType → String
  | .functionRecompiles => "FunctionRecompilesAlert"
  | .infNan => "InfNanAlert"
  | .tensorShape => "TensorShapeAlert"

/-- The kind with a given name. -/
def ofName? (name : String) : Option AlertType := all.find? (·.name = name)

/-- The place of a kind in the list of all kinds. -/
def rank : AlertType → Nat
  | .functionRecompiles => 0
  | .infNan => 1
  | .tensorShape => 2

/-- Kinds are ordered by their rank. -/
instance : Ord AlertType where
  compare := compareOn rank

instance : Std.TransOrd AlertType :=
  inferInstanceAs (Std.TransCmp (compareOn rank))

instance : Std.LawfulEqOrd AlertType where
  eq_of_compare {a b} h := by
    revert h
    cases a <;> cases b <;> decide

@[simp]
theorem ofName?_name (kind : AlertType) : ofName? kind.name = some kind := by
  cases kind <;> decide

end AlertType

/-- Infinite values, or values that are no numbers, in an output tensor. -/
structure InfNanAlert where
  opType : String
  outputSlot : UInt32
  size : Nat
  numNegInf : Nat
  numPosInf : Nat
  numNaN : Nat
  /-- The top-level execution. -/
  executionIndex : Nat
  /-- The execution inside a graph, if the tensor was computed there. -/
  graphExecutionIndex : Option Nat
deriving Repr, DecidableEq, Inhabited

/-- A traced function that was compiled more often than expected. -/
structure FunctionRecompilesAlert where
  functionName : String
  numCompiles : UInt32
deriving Repr, DecidableEq, Inhabited

/-- A tensor shape that changed between executions. -/
structure TensorShapeAlert where
  opType : String
  outputSlot : UInt32
  executionIndex : Option Nat
  graphExecutionIndex : Option Nat
deriving Repr, DecidableEq, Inhabited

/-- An alert of any kind. -/
inductive Alert where
  | functionRecompiles (alert : FunctionRecompilesAlert)
  | infNan (alert : InfNanAlert)
  | tensorShape (alert : TensorShapeAlert)
deriving Repr, DecidableEq, Inhabited

namespace Alert

/-- The kind of an alert. -/
def alertType : Alert → AlertType
  | .functionRecompiles _ => .functionRecompiles
  | .infNan _ => .infNan
  | .tensorShape _ => .tensorShape

/-- The top-level execution that an alert points at. -/
def executionIndex? : Alert → Option Nat
  | .functionRecompiles _ => none
  | .infNan alert => some alert.executionIndex
  | .tensorShape alert => alert.executionIndex

/-- The execution inside a graph that an alert points at. -/
def graphExecutionIndex? : Alert → Option Nat
  | .functionRecompiles _ => none
  | .infNan alert => alert.graphExecutionIndex
  | .tensorShape alert => alert.graphExecutionIndex

end Alert

/-- How many alerts there are, together and of each kind. -/
structure AlertTally where
  numAlerts : Nat := 0
  perType : Std.ExtTreeMap AlertType Nat := ∅

end TraceViewer
