import TraceViewer.DataSource

/-!
# Archives

An archive is a data source that holds everything that was recorded of its runs.
It may be offline, and then answers nothing.
-/

namespace TraceViewer

/-- Everything that was recorded of one run. -/
structure Recording where
  /-- What the listing says about the run; a run without it is not listed. -/
  metadata : Option RunMetadata := none
  executions : List Execution := []
  graphExecutions : List GraphExecution := []
  frames : FrameTable := ∅
  /-- The ops by graph and name, without embedded neighbours. -/
  graphOps : Std.ExtTreeMap String (Std.ExtTreeMap String GraphOp) := ∅
  sourceFiles : Std.ExtTreeMap SourceFile (List String) := ∅
  alerts : List Alert := []

namespace Recording

/-- The alerts of a kind, in the order in which they were raised. -/
def alertsOfType (recording : Recording) (alertType : AlertType) : List Alert :=
  recording.alerts.filter (·.alertType = alertType)

/-- How many alerts there are, together and of each kind that occurs. -/
def tally (recording : Recording) : AlertTally where
  numAlerts := recording.alerts.length
  perType := recording.alerts.foldl (fun counts alert =>
    counts.insert alert.alertType (counts[alert.alertType]?.getD 0 + 1)) ∅

/-- The op under a key. -/
def op? (recording : Recording) (key : GraphOpKey) : Option GraphOp :=
  recording.graphOps[key.graphId]?.bind fun graph => graph[key.opName]?

/-- The op under a key with its neighbours in the same graph embedded. -/
def embeddedOp? (recording : Recording) (key : GraphOpKey) : Option GraphOp :=
  (recording.op? key).map fun op =>
    op.embed fun name => (recording.op? { key with opName := name }).map GraphOp.stripped

/-! ## Recording more -/

/-- Record a top-level execution. -/
def pushExecution (recording : Recording) (execution : Execution) : Recording :=
  { recording with executions := recording.executions ++ [execution] }

/-- Record an execution inside a graph. -/
def pushGraphExecution (recording : Recording) (execution : GraphExecution) : Recording :=
  { recording with graphExecutions := recording.graphExecutions ++ [execution] }

/-- Record a stack frame under an id. -/
def insertFrame (recording : Recording) (id : FrameId) (frame : StackFrame) : Recording :=
  { recording with frames := recording.frames.insert id frame }

/-- Record a graph op under the innermost graph around it.  An op that names no
graph is not recorded. -/
def insertOp (recording : Recording) (op : GraphOp) : Recording :=
  match op.graphId? with
  | none => recording
  | some graphId =>
    { recording with
      graphOps := recording.graphOps.insert graphId
        ((recording.graphOps[graphId]?.getD ∅).insert op.opName op.stripped) }

/-- Record a source file. -/
def insertFile (recording : Recording) (file : SourceFile) (lines : List String) : Recording :=
  { recording with sourceFiles := recording.sourceFiles.insert file lines }

/-- Record an alert. -/
def pushAlert (recording : Recording) (alert : Alert) : Recording :=
  { recording with alerts := recording.alerts ++ [alert] }

end Recording

/-- The recordings of several runs. -/
structure Archive where
  runs : Std.ExtTreeMap RunId Recording := ∅
  /-- Whether nothing is answered. -/
  offline : Bool := false

namespace Archive

/-! ## Filling an archive -/

/-- Add a run that started at a given time, or correct the time of a run. -/
def addRun (archive : Archive) (run : RunId) (startTime : Float) : Archive :=
  { archive with
    runs := archive.runs.insert run
      { archive.runs[run]?.getD {} with metadata := some { startTime } } }

/-- Change the recording of a run, if there is such a run. -/
def modifyRun (archive : Archive) (run : RunId) (change : Recording → Recording) : Archive :=
  match archive.runs[run]? with
  | none => archive
  | some recording => { archive with runs := archive.runs.insert run (change recording) }

/-! ## Answers -/

/-- Why an archive that is offline does not answer. -/
def offlineError : TransportError := .unavailable "memory source is offline"

/-- The recording of a run. -/
def recording (archive : Archive) (run : RunId) : Except TransportError Recording :=
  if archive.offline then .error offlineError
  else
    match archive.runs[run]? with
    | none => .error (.notFound ("run " ++ run))
    | some recording => .ok recording

/-- The runs that have metadata. -/
def listRuns (archive : Archive) : Except TransportError RunListing :=
  if archive.offline then .error offlineError
  else .ok (archive.runs.filterMap fun _ recording => recording.metadata)

/-- The items of a range that exist, shown by `view`. -/
def pageOf {α β : Type} (view : α → β) (all : List α) (range : Interval) : Batch β :=
  let stop := min range.stop all.length
  let start := min range.start stop
  { range := ⟨start, stop⟩
    items := ((all.drop start).take (stop - start)).map view
    total := all.length }

/-- The records of the top-level executions in a range, which has to exist. -/
def recordsIn (recording : Recording) (range : Interval) :
    Except TransportError (List Execution) :=
  let all := recording.executions
  if range.stop < range.start ∨ all.length < range.stop then
    .error (.notFound s!"executions [{range.start}, {range.stop}) of {all.length}")
  else .ok ((all.drop range.start).take range.length)

/-- The frames with given ids, every one of which has to exist. -/
def framesIn (recording : Recording) (ids : List FrameId) : Except TransportError FrameTable :=
  ids.foldlM (fun table id =>
    match recording.frames[id]? with
    | none => .error (.notFound ("stack frame " ++ id))
    | some frame => .ok (table.insert id frame)) ∅

/-- The alerts of a kind in a range of ordinals, every one of which has to exist. -/
def alertsIn (recording : Recording) (alertType : AlertType) (range : Interval) :
    Except TransportError (List Alert) :=
  let alerts := ((recording.alertsOfType alertType).drop range.start).take range.length
  if alerts.length ≠ range.length then
    .error (.notFound (alertType.name ++ s!" alerts [{range.start}, {range.stop})"))
  else .ok alerts

/-- What a recording answers to a request. -/
def answer (recording : Recording) : Request → Except TransportError Reply
  | .numExecutions => .ok (.numExecutions recording.executions.length)
  | .numGraphExecutions => .ok (.numGraphExecutions recording.graphExecutions.length)
  | .page .executions range =>
    .ok (.executionDigests (pageOf Execution.digest recording.executions range))
  | .page .graphExecutions range =>
    .ok (.graphExecutions (pageOf id recording.graphExecutions range))
  | .executionData range => (recordsIn recording range).map (.executionData range)
  | .stackFrames ids => (framesIn recording ids).map .stackFrames
  | .graphOpInfo key =>
    match recording.embeddedOp? key with
    | none => .error (.notFound ("op " ++ key.opName ++ " in graph " ++ key.graphId))
    | some op => .ok (.graphOpInfo op)
  | .sourceFileList => .ok (.sourceFileList recording.sourceFiles.keys)
  | .sourceFile file =>
    match recording.sourceFiles[file]? with
    | none => .error (.notFound ("file " ++ file.filePath))
    | some lines => .ok (.sourceFile file lines)
  | .numAlertsAndBreakdown => .ok (.numAlertsAndBreakdown recording.tally)
  | .alertsOfType alertType range =>
    (alertsIn recording alertType range).map
      (.alertsOfType alertType range recording.tally)

/-- The answer to a request within a run. -/
def fetch (archive : Archive) (run : RunId) (request : Request) : Except TransportError Reply :=
  match archive.recording run with
  | .error error => .error error
  | .ok recording => answer recording request

instance : DataSource Archive where
  name _ := "memory"
  listRuns := listRuns
  fetch := fetch

end Archive

end TraceViewer
