import TraceViewer.Alert
import TraceViewer.Execution
import TraceViewer.GraphOp
import TraceViewer.PagedSequence

/-!
# Requests and replies

What a session asks a data source for, always within one run, and what a source
sends back.
-/

namespace TraceViewer

/-- The two paged sequences of a run. -/
inductive SequenceKind where
  /-- The digests of the top-level executions. -/
  | executions
  /-- The executions inside graphs. -/
  | graphExecutions
deriving Repr, DecidableEq, Inhabited

/-- Something that a session asks for. -/
inductive Request where
  | numExecutions
  | numGraphExecutions
  /-- The items of a sequence in a range. -/
  | page (sequence : SequenceKind) (range : Interval)
  /-- The records of the top-level executions in a range. -/
  | executionData (range : Interval)
  | stackFrames (ids : List FrameId)
  | graphOpInfo (key : GraphOpKey)
  | sourceFileList
  | sourceFile (file : SourceFile)
  | numAlertsAndBreakdown
  /-- The alerts of a kind in a range of ordinals. -/
  | alertsOfType (alertType : AlertType) (range : Interval)
deriving Repr, DecidableEq

/-- The name under which a request is logged. -/
def Request.name : Request → String
  | .numExecutions => "NumExecutions"
  | .numGraphExecutions => "NumGraphExecutions"
  | .page _ _ => "Page"
  | .executionData _ => "ExecutionData"
  | .stackFrames _ => "StackFrames"
  | .graphOpInfo _ => "GraphOpInfo"
  | .sourceFileList => "SourceFileList"
  | .sourceFile _ => "SourceFile"
  | .numAlertsAndBreakdown => "NumAlertsAndBreakdown"
  | .alertsOfType _ _ => "AlertsOfType"

/-- What a source sends back. -/
inductive Reply where
  | numExecutions (total : Nat)
  | numGraphExecutions (total : Nat)
  | executionDigests (batch : Batch ExecutionDigest)
  | graphExecutions (batch : Batch GraphExecution)
  | executionData (range : Interval) (executions : List Execution)
  | stackFrames (frames : FrameTable)
  | graphOpInfo (op : GraphOp)
  | sourceFileList (files : List SourceFile)
  | sourceFile (file : SourceFile) (lines : List String)
  | numAlertsAndBreakdown (tally : AlertTally)
  | alertsOfType (alertType : AlertType) (range : Interval) (tally : AlertTally)
      (alerts : List Alert)

end TraceViewer
