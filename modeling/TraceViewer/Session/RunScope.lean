import TraceViewer.Focus
import TraceViewer.Session.AlertBoard
import TraceViewer.Session.ExecutionTimeline
import TraceViewer.Session.InputTrace
import TraceViewer.Session.OpStore
import TraceViewer.Session.SourceShelf
import TraceViewer.StackTrace

/-!
# The scope of a run

Everything that a session knows of its active run.  A new scope is made whenever
another run is selected.
-/

namespace TraceViewer

/-- What a session knows of its active run. -/
structure RunScope where
  alerts : AlertBoard
  executions : ExecutionTimeline
  graphExecutions : Timeline GraphExecution
  ops : OpStore
  /-- The stack frames held, by id. -/
  frames : FrameTable
  /-- The stack frames being fetched. -/
  framesInFlight : Std.ExtTreeSet FrameId
  /-- The kind of code location whose stack is shown. -/
  location : Option CodeLocation
  sources : SourceShelf

namespace RunScope

/-- The scope of a run of which nothing is known. -/
def fresh (config : Config) (valid : config.Valid) : RunScope where
  alerts := {}
  executions := .fresh config.executions valid.1
  graphExecutions := .fresh .graphExecutions config.graphExecutions valid.2
  ops := {}
  frames := ∅
  framesInFlight := ∅
  location := none
  sources := {}

/-! ## The current stack trace -/

/-- The item whose call stack is shown, whether its record is held or not. -/
def focusOrigin (scope : RunScope) : Option FocusOrigin :=
  scope.location.bind fun
    | .execution => scope.executions.digests.focus.map .execution
    | .graphOpCreation => scope.ops.focused.map .graphOpCreation

/-- The ids of the frames of an origin, when its record is held. -/
def originFrameIds (scope : RunScope) : FocusOrigin → Option (List FrameId)
  | .execution index => scope.executions.records[index]?.map (·.frameIds)
  | .graphOpCreation key => (scope.ops.op? key).map (·.frameIds)

/-- The call stack of an origin, when its record and all its frames are held. -/
def framesOf (scope : RunScope) (origin : FocusOrigin) : Option (List StackFrame) :=
  (scope.originFrameIds origin).bind (StackTrace.frames? scope.frames)

/-- The current stack trace. -/
def currentFrames (scope : RunScope) : Option (List StackFrame) :=
  scope.focusOrigin.bind scope.framesOf

/-- The current stack trace, prepared for display. -/
def displayFrames (scope : RunScope) : Option (List StackTrace.DisplayFrame) :=
  scope.currentFrames.map (StackTrace.display scope.sources.focusLine)

/-! ## Other views -/

/-- The window over a sequence. -/
def window (scope : RunScope) : SequenceKind → ScrollWindow
  | .executions => scope.executions.digests.view.window
  | .graphExecutions => scope.graphExecutions.view.window

/-- The number of items of a sequence. -/
def numItems (scope : RunScope) : SequenceKind → Nat
  | .executions => scope.executions.digests.numItems
  | .graphExecutions => scope.graphExecutions.numItems

/-- For each top-level execution that is shown, the highlighted kind of alert when
such an alert points at it. -/
def visibleAlertTypes (scope : RunScope) : List (Option AlertType) :=
  scope.alerts.focusTypesFor scope.executions.digests.view.visibleRange

/-- The executions that computed the inputs of the focused graph execution. -/
def inputIndices (scope : RunScope) (maxLookBack : Nat) : Option (List Nat) :=
  InputTrace.indices scope.graphExecutions.focus scope.graphExecutions.view.sequence
    (scope.ops.focusedOp.map (·.inputs)) maxLookBack

/-! ## User events -/

/-- Replace the digests of the top-level executions. -/
def withDigests (scope : RunScope) (digests : Timeline ExecutionDigest) : RunScope :=
  { scope with executions := { scope.executions with digests } }

/-- Ask again for everything that grows while the observed program runs. -/
def refresh (scope : RunScope) (run : RunId) : RunScope × Command :=
  let (digests, digestTotal) := scope.executions.digests.requestTotal run
  let (graphExecutions, graphTotal) := scope.graphExecutions.requestTotal run
  ({ scope.withDigests digests with
      graphExecutions
      alerts := scope.alerts.startLoading
      sources := scope.sources.startListLoading },
    .combine
      [digestTotal, graphTotal, .fetch run .numAlertsAndBreakdown, .fetch run .sourceFileList])

/-- Move the window over a sequence. -/
def scroll (scope : RunScope) (run : RunId) (kind : SequenceKind) (step : ScrollStep) :
    RunScope × Except ViewError Command :=
  match kind with
  | .executions =>
    let (digests, result) := scope.executions.digests.scroll run step
    (scope.withDigests digests, result)
  | .graphExecutions =>
    let (graphExecutions, result) := scope.graphExecutions.scroll run step
    ({ scope with graphExecutions }, result)

/-- Give the focus to a graph op and follow its call stack. -/
def focusOp (scope : RunScope) (key : GraphOpKey) : RunScope :=
  { scope with ops := scope.ops.focus key, location := some .graphOpCreation }

/-- Give the focus to the item at an offset within a window.  The stack trace
follows it: the execution itself, or the op of a graph execution that is held. -/
def focusByOffset (scope : RunScope) (kind : SequenceKind) (offset : Nat) : RunScope :=
  match kind with
  | .executions =>
    let digests := scope.executions.digests
    { scope.withDigests (digests.setFocus (some (digests.view.window.indexAt offset))) with
      location := some .execution }
  | .graphExecutions =>
    let index := scope.graphExecutions.view.window.indexAt offset
    let focused := { scope with graphExecutions := scope.graphExecutions.setFocus (some index) }
    match scope.graphExecutions.items[index]? with
    | none => focused
    | some execution =>
      focused.focusOp { graphId := execution.graphId, opName := execution.opName }

/-- Ask for a graph op. -/
def requestOp (scope : RunScope) (run : RunId) (key : GraphOpKey) : RunScope × Command :=
  let (ops, wanted) := scope.ops.request key
  ({ scope with ops }, if wanted then .fetch run (.graphOpInfo key) else .none)

/-- Ask for the alerts of a kind. -/
def requestAlerts (scope : RunScope) (run : RunId) (alertType : AlertType) :
    RunScope × Command :=
  let (alerts, wanted) := scope.alerts.requestType alertType
  ({ scope with alerts },
    wanted.elim .none fun range => .fetch run (.alertsOfType alertType range))

/-- Put the first known alert of a kind in the middle of the window. -/
def recenterOnAlert (scope : RunScope) (run : RunId) (alertType : AlertType) :
    RunScope × Except ViewError Command :=
  match scope.alerts.firstExecutionIndex alertType with
  | none => (scope, .ok .none)
  | some index => scope.scroll run .executions (.recenter index)

/-- Highlight the alerts of a kind, or stop highlighting them.  When they become
highlighted, the window goes to the first of them and the alerts are fetched. -/
def toggleAlerts (scope : RunScope) (run : RunId) (alertType : AlertType) :
    RunScope × Except ViewError Command :=
  let toggled := { scope with alerts := scope.alerts.toggleFocus alertType }
  if toggled.alerts.focusType.isNone then (toggled, .ok .none)
  else
    match toggled.recenterOnAlert run alertType with
    | (moved, .error error) => (moved, .error error)
    | (moved, .ok recentering) =>
      let (requested, fetching) := moved.requestAlerts run alertType
      (requested, .ok (.combine [recentering, fetching]))

/-- Put the focus on a line of source code. -/
def setFocusLine (scope : RunScope) (line : StackFrame) : RunScope :=
  { scope with sources := scope.sources.setFocusLine line }

/-- Ask for a source file, which has to be listed. -/
def requestFile (scope : RunScope) (run : RunId) (file : SourceFile) :
    RunScope × Except ViewError Command :=
  match scope.sources.requestFile file with
  | .error error => (scope, .error error)
  | .ok (sources, wanted) =>
    ({ scope with sources }, .ok (if wanted then .fetch run (.sourceFile file) else .none))

end RunScope

end TraceViewer
