import Std.Data.ExtTreeSet
import TraceViewer.Error
import TraceViewer.Fetch

/-!
# The alert board

The alerts of a kind arrive in ranges of ordinals.  For every kind the board keeps
the alerts by ordinal, and the executions they point at.  An alert once held is
never replaced.
-/

namespace TraceViewer

/-- Where a batch of alerts asks the session to look. -/
structure AlertJump where
  executionIndex : Nat
  graphExecutionIndex : Option Nat
deriving Repr, DecidableEq

/-- What is held of the alerts of one kind. -/
structure AlertShelf where
  /-- The alerts, by ordinal. -/
  alerts : Std.ExtTreeMap Nat Alert := ∅
  /-- The top-level executions pointed at, by ordinal. -/
  executionIndices : Std.ExtTreeMap Nat Nat := ∅
  /-- The executions inside graphs pointed at, by ordinal. -/
  graphExecutionIndices : Std.ExtTreeMap Nat Nat := ∅

namespace AlertShelf

/-- Enter what an alert points at, if it points at anything. -/
def enter (indices : Std.ExtTreeMap Nat Nat) (ordinal : Nat) :
    Option Nat → Std.ExtTreeMap Nat Nat
  | none => indices
  | some index => indices.insert ordinal index

/-- Hold an alert, unless one with the same ordinal is held already. -/
def put (shelf : AlertShelf) (ordinal : Nat) (alert : Alert) : AlertShelf :=
  if ordinal ∈ shelf.alerts then shelf
  else
    { alerts := shelf.alerts.insert ordinal alert
      executionIndices := enter shelf.executionIndices ordinal alert.executionIndex?
      graphExecutionIndices :=
        enter shelf.graphExecutionIndices ordinal alert.graphExecutionIndex? }

/-- Hold alerts with consecutive ordinals. -/
def putAll (shelf : AlertShelf) (ordinal : Nat) : List Alert → AlertShelf
  | [] => shelf
  | alert :: rest => (shelf.put ordinal alert).putAll (ordinal + 1) rest

end AlertShelf

/-- The alerts of a session. -/
structure AlertBoard where
  load : LoadState := {}
  tally : AlertTally := {}
  /-- What is held, for every kind of which a batch has arrived. -/
  shelves : Std.ExtTreeMap AlertType AlertShelf := ∅
  /-- The kind that is highlighted. -/
  focusType : Option AlertType := none
  /-- The kinds that are being fetched. -/
  inFlight : Std.ExtTreeSet AlertType := ∅

namespace AlertBoard

/-! ## Looking at the board -/

/-- How many alerts of the highlighted kind there are, held or not. -/
def numFocused (board : AlertBoard) : Nat :=
  (board.focusType.bind fun alertType => board.tally.perType[alertType]?).getD 0

/-- The alerts held of the highlighted kind. -/
def focusedAlerts (board : AlertBoard) : Option (Std.ExtTreeMap Nat Alert) :=
  board.focusType.bind fun alertType => (board.shelves[alertType]?).map (·.alerts)

/-- The top-level executions that the alerts of a kind point at. -/
def executionIndices (board : AlertBoard) (alertType : AlertType) : List Nat :=
  ((board.shelves[alertType]?).map (·.executionIndices.toList.map Prod.snd)).getD []

/-- For each execution of a range the highlighted kind, when an alert of that kind
points at the execution. -/
def focusTypesFor (board : AlertBoard) (range : Interval) : List (Option AlertType) :=
  range.indices.map fun index =>
    board.focusType.filter fun alertType => index ∈ board.executionIndices alertType

/-- The execution that the first alert of a kind points at, among those that point
at one. -/
def firstExecutionIndex (board : AlertBoard) (alertType : AlertType) : Option Nat :=
  (board.shelves[alertType]?).bind fun shelf =>
    shelf.executionIndices.toList.head?.map Prod.snd

/-! ## Changes -/

/-- The tally or the alerts are being fetched. -/
def startLoading (board : AlertBoard) : AlertBoard := { board with load := board.load.start }

/-- Fetching the tally, or the alerts of a kind, failed. -/
def onFailed (board : AlertBoard) (alertType : Option AlertType) : AlertBoard :=
  { board with
    inFlight := alertType.elim board.inFlight board.inFlight.erase
    load := board.load.fail }

/-- A tally arrived at time `now`.  The result says whether there are more alerts
than before. -/
def onTally (board : AlertBoard) (tally : AlertTally) (now : Nat) : AlertBoard × Bool :=
  ({ board with tally, load := board.load.finish now },
    board.tally.numAlerts < tally.numAlerts)

/-- Highlight a kind, or stop highlighting it when it is highlighted. -/
def toggleFocus (board : AlertBoard) (alertType : AlertType) : AlertBoard :=
  { board with
    focusType := if board.focusType = some alertType then none else some alertType }

/-- Ask for the alerts of a kind, unless there are none, or some are held, or they
are being fetched.  The result is the range of their ordinals. -/
def requestType (board : AlertBoard) (alertType : AlertType) : AlertBoard × Option Interval :=
  let count := board.tally.perType[alertType]?.getD 0
  if count = 0 ∨ alertType ∈ board.shelves ∨ alertType ∈ board.inFlight then (board, none)
  else
    ({ board with
        inFlight := board.inFlight.insert alertType
        load := board.load.start },
      some ⟨0, count⟩)

/-- The alerts of a batch have to fill their range. -/
def checkBatch (range : Interval) (alerts : List Alert) : Except ViewError Unit :=
  if range.stop < range.start ∨ alerts.length ≠ range.length then
    .error (.invalidArgument (.misfitAlerts range.start range.stop alerts.length))
  else .ok ()

/-- Where a batch asks to look: at what its first alert points at, when the batch
starts with the first alert of its kind. -/
def jumpOf (range : Interval) (alerts : List Alert) : Option AlertJump :=
  if range.start = 0 then
    alerts.head?.bind fun alert =>
      alert.executionIndex?.map fun executionIndex =>
        { executionIndex, graphExecutionIndex := alert.graphExecutionIndex? }
  else none

/-- Merge a batch of alerts of a kind that arrived at time `now`. -/
def merge (board : AlertBoard) (alertType : AlertType) (range : Interval) (tally : AlertTally)
    (alerts : List Alert) (now : Nat) : AlertBoard :=
  let shelf := board.shelves[alertType]?.getD {}
  { board with
    shelves := board.shelves.insert alertType (shelf.putAll range.start alerts)
    tally
    inFlight := board.inFlight.erase alertType
    load := board.load.finish now }

end AlertBoard

end TraceViewer
