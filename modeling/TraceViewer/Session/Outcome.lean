import TraceViewer.Session.RunScope

/-!
# Outcomes of fetches

How the scope of a run takes up what a source replied, or that a fetch failed.

A reply may be refused.  It is then dropped, apart from the marks that say that the
data is being fetched.
-/

namespace TraceViewer.RunScope

/-! ## Replies -/

/-- The first execution gets the focus as soon as there is one, unless another has
it; its call stack is followed unless something else is. -/
def focusFirst (scope : RunScope) (total : Nat) : RunScope :=
  if 0 < total ∧ scope.executions.digests.focus = none then
    { scope.withDigests (scope.executions.digests.setFocus (some 0)) with
      location := some (scope.location.getD .execution) }
  else scope

/-- Take up stack frames.  A frame that is held already stays. -/
def putFrames (scope : RunScope) (frames : FrameTable) : RunScope :=
  { scope with
    frames := frames.foldl (fun table id frame => table.insertIfNew id frame) scope.frames
    framesInFlight := scope.framesInFlight.filter fun id => id ∉ frames }

/-- Show what a batch of alerts points at: the window goes to the top-level
execution, and the execution inside a graph gets the focus. -/
def jump (scope : RunScope) (run : RunId) (jump : AlertJump) :
    RunScope × Except ViewError Command :=
  match scope.scroll run .executions (.recenter jump.executionIndex) with
  | (moved, .error error) => (moved, .error error)
  | (moved, .ok command) =>
    match jump.graphExecutionIndex with
    | none => (moved, .ok command)
    | some index =>
      ({ moved with graphExecutions := moved.graphExecutions.setFocus (some index) },
        .ok command)

/-- Take up alerts of a kind. -/
def onAlerts (scope : RunScope) (run : RunId) (alertType : AlertType) (range : Interval)
    (tally : AlertTally) (alerts : List Alert) (now : Nat) :
    RunScope × Except ViewError Command :=
  match AlertBoard.checkBatch range alerts with
  | .error error =>
    ({ scope with alerts := scope.alerts.onFailed (some alertType) }, .error error)
  | .ok () =>
    let merged :=
      { scope with alerts := scope.alerts.merge alertType range tally alerts now }
    match AlertBoard.jumpOf range alerts with
    | none => (merged, .ok .none)
    | some target => merged.jump run target

/-- Ask for the alerts of the highlighted kind. -/
def requestFocusedAlerts (scope : RunScope) (run : RunId) : RunScope × Command :=
  match scope.alerts.focusType with
  | none => (scope, .none)
  | some alertType => scope.requestAlerts run alertType

/-- Take up a reply that arrived at time `now`.  Besides the command the result says
whether the reply shows that the run has grown. -/
def onReply (scope : RunScope) (run : RunId) (now : Nat) :
    Reply → RunScope × Except ViewError (Command × Bool)
  | .numExecutions total =>
    match scope.executions.digests.onTotal run total now with
    | (digests, .error error) => (scope.withDigests digests, .error error)
    | (digests, .ok result) => ((scope.withDigests digests).focusFirst total, .ok result)
  | .numGraphExecutions total =>
    let (graphExecutions, result) := scope.graphExecutions.onTotal run total now
    ({ scope with graphExecutions }, result)
  | .executionDigests batch =>
    let (digests, result) := scope.executions.digests.onPage run batch now
    (scope.withDigests digests, result)
  | .graphExecutions batch =>
    let (graphExecutions, result) := scope.graphExecutions.onPage run batch now
    ({ scope with graphExecutions }, result)
  | .executionData range records =>
    let (executions, result) := scope.executions.onRecords range records
    ({ scope with executions }, result.map fun _ => (.none, false))
  | .stackFrames frames => (scope.putFrames frames, .ok (.none, false))
  | .graphOpInfo op =>
    let (ops, result) := scope.ops.onLoaded op
    ({ scope with ops }, result.map fun _ => (.none, false))
  | .sourceFileList files =>
    ({ scope with sources := scope.sources.onListLoaded files now }, .ok (.none, false))
  | .sourceFile file lines =>
    match scope.sources.onFileLoaded file lines with
    | .error error => (scope, .error error)
    | .ok sources => ({ scope with sources }, .ok (.none, false))
  | .numAlertsAndBreakdown tally =>
    let (alerts, grew) := scope.alerts.onTally tally now
    let (requested, command) := { scope with alerts }.requestFocusedAlerts run
    (requested, .ok (command, grew))
  | .alertsOfType alertType range tally alerts =>
    let (merged, result) := scope.onAlerts run alertType range tally alerts now
    (merged, result.map fun command => (command, false))

/-! ## Failures -/

/-- Take up that a fetch failed: what it was for is no longer being fetched. -/
def onFetchFailed (scope : RunScope) : Request → RunScope
  | .numExecutions => scope.withDigests scope.executions.digests.onTotalFailed
  | .numGraphExecutions =>
    { scope with graphExecutions := scope.graphExecutions.onTotalFailed }
  | .page .executions range =>
    scope.withDigests (scope.executions.digests.onPageFailed range)
  | .page .graphExecutions range =>
    { scope with graphExecutions := scope.graphExecutions.onPageFailed range }
  | .executionData range => { scope with executions := scope.executions.release range }
  | .stackFrames ids =>
    { scope with framesInFlight := scope.framesInFlight.filter fun id => id ∉ ids }
  | .graphOpInfo key => { scope with ops := scope.ops.onFailed key }
  | .sourceFileList => { scope with sources := scope.sources.onListFailed }
  | .sourceFile file => { scope with sources := scope.sources.onFileFailed file }
  | .numAlertsAndBreakdown => { scope with alerts := scope.alerts.onFailed none }
  | .alertsOfType alertType _ =>
    { scope with alerts := scope.alerts.onFailed (some alertType) }

end TraceViewer.RunScope
