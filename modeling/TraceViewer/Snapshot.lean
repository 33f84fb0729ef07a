import TraceViewer.Session.Basic
import TraceViewer.Wire.Fetch

/-!
# Snapshots

A snapshot is what a session shows, as JSON, divided into named sections.  Two
snapshots are compared section by section to see what an event has changed.

Load times may be left out of a snapshot, which then only says whether there is one.
The times of polling are left out with them.
-/

namespace TraceViewer

namespace Json

/-- An optional number. -/
def ofNatOption (n : Option Nat) : Json := ofOption ofNat n

/-- A list of numbers. -/
def ofNats (ns : List Nat) : Json := ofList ofNat ns

/-- A list of pairs of numbers. -/
def ofPairs (pairs : List (Nat × Nat)) : Json := ofList (fun (a, b) => ofNats [a, b]) pairs

end Json

/-- Whether load times are shown, or only whether there is one. -/
inductive TimeDetail where
  | exact
  | presence
deriving Repr, DecidableEq

namespace Snapshot

/-! ## Parts of sections -/

/-- A load state as a pair of its stage and its load time. -/
def load (detail : TimeDetail) (state : LoadState) : Json :=
  .array
    [state.phase.toJson,
      match detail with
      | .exact => .ofNatOption state.lastLoaded
      | .presence => .bool state.lastLoaded.isSome]

/-- An interval as a pair. -/
def interval (range : Interval) : Json := .ofNats [range.start, range.stop]

/-- A paged view, its items shown by `encode`. -/
def view {α : Type} (encode : α → Json) (view : PagedView α) : Json :=
  .object
    [("page_size", .ofNat view.sequence.pageSize),
      ("display_count", .ofNat view.window.displayCount), ("num_items", .ofNat view.numItems),
      ("loaded", .ofNat view.sequence.loadedCount),
      ("scroll_begin", .ofNat view.window.scrollBegin),
      ("focus", .ofNatOption view.window.focus),
      ("focus_offset", .ofNatOption view.window.focusOffset),
      ("focused_item", .ofOption encode view.focusedItem),
      ("visible_range", interval view.visibleRange),
      ("visible", .ofList (.ofOption encode) view.visibleSlice),
      ("page_sizes", .ofPairs view.sequence.loadedSizes.toList),
      ("in_flight", .ofPairs view.sequence.inFlight.toList)]

/-- A timeline, its items shown by `encode`. -/
def timeline {α : Type} (detail : TimeDetail) (encode : α → Json) (timeline : Timeline α) :
    Json :=
  .object
    [("kind", timeline.kind.toJson), ("num_items", .ofNat timeline.numItems),
      ("focus", .ofNatOption timeline.focus), ("num_load", load detail timeline.totalLoad),
      ("pages_load", load detail timeline.pagesLoad), ("view", view encode timeline.view)]

/-- The digest of an execution, shown by its type. -/
def executionLabel (digest : ExecutionDigest) : Json := .string digest.opType

/-- A graph execution, shown by the tensor that it computes. -/
def graphExecutionLabel (execution : GraphExecution) : Json :=
  .string
    (execution.graphId ++ "/" ++ execution.opName ++ ":" ++
      toString execution.outputSlot.toNat)

/-- The position of a window and of the focus in it. -/
def position (window : ScrollWindow) : Json :=
  .array
    [.ofNat window.scrollBegin, .ofNatOption window.focus, .ofNatOption window.focusOffset]

/-! ## Sections -/

/-- The runs and the focus. -/
def overview (detail : TimeDetail) (session : Session) : Json :=
  .object
    [("active_run", .ofOption .string session.activeRun),
      ("runs", RunListing.toJson session.runs), ("runs_load", load detail session.runsLoad),
      ("sticky_focus", .bool session.stickyFocus),
      ("code_location_focus_type", .ofOption CodeLocation.toJson session.scope.location),
      ("focus_origin", .ofOption FocusOrigin.toJson session.scope.focusOrigin)]

/-- The alerts of one kind. -/
def alertShelf (board : AlertBoard) (alertType : AlertType) (shelf : AlertShelf) : Json :=
  .object
    [("ordinals", .ofNats shelf.alerts.keys),
      ("execution_indices", .ofPairs shelf.executionIndices.toList),
      ("graph_execution_indices", .ofPairs shelf.graphExecutionIndices.toList),
      ("first", .ofNatOption (board.firstExecutionIndex alertType))]

/-- The alerts. -/
def alerts (detail : TimeDetail) (board : AlertBoard) : Json :=
  .object
    [("load", load detail board.load), ("num_alerts", .ofNat board.tally.numAlerts),
      ("breakdown", AlertTally.perTypeToJson board.tally.perType),
      ("focus_type", .ofOption AlertType.toJson board.focusType),
      ("num_focused", .ofNat board.numFocused),
      ("focused", .ofOption (fun alerts => .ofList Alert.toJson alerts.values)
        board.focusedAlerts),
      ("types", .object (board.shelves.toList.map fun (alertType, shelf) =>
        (alertType.name, alertShelf board alertType shelf)))]

/-- The graph ops. -/
def ops (store : OpStore) : Json :=
  .object
    [("focused", .ofOption GraphOpKey.toJson store.focused),
      ("info", .ofOption GraphOp.toJson store.focusedOp),
      ("inputs", .ofOption (.ofList OpInput.toJson) store.focusedInputs),
      ("consumers", .ofOption (.ofList (.ofList OpConsumer.toJson)) store.focusedConsumers),
      ("loading", .object (store.phases.toList.map fun (graph, phases) =>
        (graph, .object (phases.toList.map fun (name, phase) => (name, phase.toJson)))))]

/-- The records of the top-level executions. -/
def records (timeline : ExecutionTimeline) : Json :=
  .object
    [("loaded", .ofNats timeline.records.keys),
      ("focused", .ofOption Execution.toJson timeline.focusedRecord)]

/-- The stack frames and the current stack trace. -/
def stack (scope : RunScope) : Json :=
  .object
    [("loaded", .ofStrings scope.frames.keys),
      ("frames", .ofOption (.ofList StackFrame.toJson) scope.currentFrames),
      ("display", .ofOption (.ofList StackTrace.DisplayFrame.toJson) scope.displayFrames)]

/-- A listed file, with the number of its lines when they are loaded. -/
def sourceFile (shelf : SourceShelf) (file : SourceFile) : Json :=
  let content := shelf.content? file
  .array
    [.string file.hostName, .string file.filePath,
      .ofOption (fun (content : FileContent) => content.phase.toJson) content,
      .ofNatOption ((content.bind FileContent.lines).map List.length)]

/-- The source files. -/
def sources (detail : TimeDetail) (shelf : SourceShelf) : Json :=
  .object
    [("list_load", load detail shelf.listLoad),
      ("files", .ofList (sourceFile shelf) shelf.files),
      ("focus_line", .ofOption StackFrame.toJson shelf.focusLine),
      ("focused_index", .ofNatOption shelf.focusedIndex),
      ("focused_lines", .ofOption .ofStrings (shelf.focusedContent.bind FileContent.lines))]

/-- The times of polling. -/
def polling (session : Session) : Json :=
  .ofNats [session.pollOnset, session.lastNonEmptyPoll, session.pollSilence]

end Snapshot

/-- What a session shows, section by section. -/
def Session.snapshot (detail : TimeDetail) (session : Session) : Json.Fields :=
  let scope := session.scope
  [("session", Snapshot.overview detail session),
    ("positions", .array
      [Snapshot.position (scope.window .executions),
        Snapshot.position (scope.window .graphExecutions)]),
    ("executions",
      Snapshot.timeline detail Snapshot.executionLabel scope.executions.digests),
    ("graph_executions",
      Snapshot.timeline detail Snapshot.graphExecutionLabel scope.graphExecutions),
    ("execution_data", Snapshot.records scope.executions),
    ("alerts", Snapshot.alerts detail scope.alerts),
    ("visible_alert_types", .ofList (.ofOption AlertType.toJson) scope.visibleAlertTypes),
    ("graphs", Snapshot.ops scope.ops),
    ("graph_input_indices", .ofOption .ofNats session.inputIndices),
    ("stack", Snapshot.stack scope),
    ("source", Snapshot.sources detail scope.sources)] ++
  match detail with
  | .exact => [("poll", Snapshot.polling session)]
  | .presence => []

end TraceViewer
