import TraceViewer.Fetch

/-!
# Events

Every change of a session enters as an event: something the user did, or the
outcome of a fetch.
-/

namespace TraceViewer

/-- Something that happens to a session. -/
inductive Event where
  /-- The listing of the runs is wanted. -/
  | runsRequested
  | runsLoaded (runs : RunListing)
  | runsFailed
  /-- A run is selected, or none.  What was known of the run before is dropped. -/
  | activeRunChanged (run : Option RunId)
  /-- A round of polling starts. -/
  | pollStarted
  /-- The totals and the alerts of the active run are wanted again. -/
  | refresh
  | scrollLeft (kind : SequenceKind)
  | scrollRight (kind : SequenceKind)
  | scrollToIndex (kind : SequenceKind) (index : Nat)
  /-- The item at an offset within the window gets the focus. -/
  | focusByDisplayOffset (kind : SequenceKind) (offset : Nat)
  /-- Alerts of a kind are highlighted, or no longer. -/
  | alertTypeFocusToggled (alertType : AlertType)
  | graphOpFocused (key : GraphOpKey)
  | graphOpInfoRequested (key : GraphOpKey)
  /-- A frame of the current stack trace was clicked. -/
  | sourceLineClicked (frame : StackFrame)
  | sourceFileRequested (file : SourceFile)
  | stickyFocusSet (sticky : Bool)
  /-- A fetch within a run was answered. -/
  | loaded (run : RunId) (reply : Reply)
  /-- A fetch within a run failed. -/
  | fetchFailed (run : RunId) (request : Request)

namespace Event

/-- The name under which an event is logged. -/
def name : Event → String
  | .runsRequested => "RunsRequested"
  | .runsLoaded _ => "RunsLoaded"
  | .runsFailed => "RunsFailed"
  | .activeRunChanged _ => "ActiveRunChanged"
  | .pollStarted => "PollStarted"
  | .refresh => "Refresh"
  | .scrollLeft _ => "ScrollLeft"
  | .scrollRight _ => "ScrollRight"
  | .scrollToIndex _ _ => "ScrollToIndex"
  | .focusByDisplayOffset _ _ => "FocusByDisplayOffset"
  | .alertTypeFocusToggled _ => "AlertTypeFocusToggled"
  | .graphOpFocused _ => "GraphOpFocused"
  | .graphOpInfoRequested _ => "GraphOpInfoRequested"
  | .sourceLineClicked _ => "SourceLineClicked"
  | .sourceFileRequested _ => "SourceFileRequested"
  | .stickyFocusSet _ => "StickyFocusSet"
  | .loaded _ _ => "Loaded"
  | .fetchFailed _ _ => "FetchFailed"

/-- Whether an event reports a failed fetch within a run. -/
def isFetchFailure : Event → Bool
  | .fetchFailed _ _ => true
  | _ => false

end Event

end TraceViewer
