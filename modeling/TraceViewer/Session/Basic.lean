import TraceViewer.Event
import TraceViewer.Session.Outcome
import TraceViewer.Session.Settle

/-!
# Sessions

A session is the state of a viewer: the listing of the runs, the run that is
selected, and what is known of it.  `Session.apply` takes one event and returns the
session afterwards together with what has to be fetched because of the event, or the
reason why the event was refused.

A session fetches nothing itself.  Every fetch comes back as a later event.
-/

namespace TraceViewer

/-- The state of a viewer. -/
structure Session where
  config : Config
  config_valid : config.Valid
  /-- The runs that the source listed. -/
  runs : RunListing
  /-- How far loading the listing has come. -/
  runsLoad : LoadState
  activeRun : Option RunId
  /-- When the latest round of polling started. -/
  pollOnset : Nat
  /-- When a reply last showed that the run had grown. -/
  lastNonEmptyPoll : Nat
  /-- Whether the focused line follows the stack trace. -/
  stickyFocus : Bool
  scope : RunScope

namespace Session

/-- A session that knows nothing. -/
def fresh (config : Config) (valid : config.Valid) : Session where
  config := config
  config_valid := valid
  runs := ∅
  runsLoad := {}
  activeRun := none
  pollOnset := 0
  lastNonEmptyPoll := 0
  stickyFocus := config.stickyFocus
  scope := .fresh config valid

/-- A session that knows nothing, unless the configuration is not valid. -/
def ofConfig (config : Config) : Except ViewError Session :=
  match h : config.validate with
  | .error error => .error error
  | .ok () => .ok (fresh config (Config.validate_eq_ok_iff.mp h))

/-! ## Looking at a session -/

/-- How long, as of the latest round of polling, the run has not grown. -/
def pollSilence (session : Session) : Nat := session.pollOnset - session.lastNonEmptyPoll

/-- The executions that computed the inputs of the focused graph execution. -/
def inputIndices (session : Session) : Option (List Nat) :=
  session.scope.inputIndices session.config.maxLookBack

/-! ## The active run -/

/-- Change the scope of the active run, if there is one. -/
def inRun (session : Session) (change : RunScope → RunId → RunScope × Except ViewError Command) :
    Session × Except ViewError Command :=
  match session.activeRun with
  | none => (session, .ok .none)
  | some run =>
    let (scope, result) := change session.scope run
    ({ session with scope }, result)

/-- Change the scope of the active run, if there is one, in a way that is never
refused. -/
def adjustRun (session : Session) (change : RunScope → RunId → RunScope × Command) :
    Session × Except ViewError Command :=
  session.inRun fun scope run =>
    let (changed, command) := change scope run
    (changed, .ok command)

/-- Ask again for everything that grows. -/
def refresh (session : Session) : Session × Except ViewError Command :=
  session.adjustRun RunScope.refresh

/-- Select a run, or none, and forget what was known of the run before. -/
def changeRun (session : Session) (run : Option RunId) : Session × Except ViewError Command :=
  { session with
    activeRun := run
    scope := .fresh session.config session.config_valid }.refresh

/-- Take up a reply within a run, if that run is active. -/
def onLoaded (session : Session) (run : RunId) (reply : Reply) (now : Nat) :
    Session × Except ViewError Command :=
  if session.activeRun = some run then
    match session.scope.onReply run now reply with
    | (scope, .error error) => ({ session with scope }, .error error)
    | (scope, .ok (command, grew)) =>
      ({ session with
          scope
          lastNonEmptyPoll := if grew then now else session.lastNonEmptyPoll },
        .ok command)
  else (session, .ok .none)

/-- Take up that a fetch within a run failed, if that run is active. -/
def onFetchFailed (session : Session) (run : RunId) (request : Request) : Session :=
  if session.activeRun = some run then
    { session with scope := session.scope.onFetchFailed request }
  else session

/-- A frame was clicked: the focused line is there now, and it is sticky when the
frame is the last one of the current stack trace in its file. -/
def onLineClicked (session : Session) (frame : StackFrame) : Session :=
  { session with
    stickyFocus := StackTrace.isStickyClick frame (session.scope.currentFrames.getD [])
    scope := session.scope.setFocusLine frame }

/-! ## Events -/

/-- Take up an event at time `now`, without settling. -/
def reduce (session : Session) (now : Nat) : Event → Session × Except ViewError Command
  | .runsRequested =>
    ({ session with runsLoad := session.runsLoad.start }, .ok .fetchRuns)
  | .runsLoaded runs =>
    let listed := { session with runs, runsLoad := session.runsLoad.finish now }
    if runs.minKey? = session.activeRun then (listed, .ok .none)
    else listed.changeRun runs.minKey?
  | .runsFailed => ({ session with runsLoad := session.runsLoad.fail }, .ok .none)
  | .activeRunChanged run => session.changeRun run
  | .pollStarted => { session with pollOnset := now }.refresh
  | .refresh => session.refresh
  | .scrollLeft kind => session.inRun fun scope run => scope.scroll run kind .left
  | .scrollRight kind => session.inRun fun scope run => scope.scroll run kind .right
  | .scrollToIndex kind index =>
    session.inRun fun scope run => scope.scroll run kind (.toIndex index)
  | .focusByDisplayOffset kind offset =>
    session.adjustRun fun scope _ => (scope.focusByOffset kind offset, .none)
  | .alertTypeFocusToggled alertType =>
    session.inRun fun scope run => scope.toggleAlerts run alertType
  | .graphOpFocused key => session.adjustRun fun scope _ => (scope.focusOp key, .none)
  | .graphOpInfoRequested key => session.adjustRun fun scope run => scope.requestOp run key
  | .sourceLineClicked frame => (session.onLineClicked frame, .ok .none)
  | .sourceFileRequested file =>
    session.inRun fun scope run => scope.requestFile run file
  | .stickyFocusSet sticky => ({ session with stickyFocus := sticky }, .ok .none)
  | .loaded run reply => session.onLoaded run reply now
  | .fetchFailed run request => (session.onFetchFailed run request, .ok .none)

/-- Ask for what the focus of the active run is missing. -/
def settle (session : Session) : Session × Command :=
  match session.activeRun with
  | none => (session, .none)
  | some run =>
    let (scope, command) := session.scope.settle run session.stickyFocus
    ({ session with scope }, command)

/-- Take up an event at time `now`.  The session settles afterwards, unless the event
is refused or reports a failed fetch. -/
def apply (session : Session) (event : Event) (now : Nat) :
    Session × Except ViewError Command :=
  match session.reduce now event with
  | (reduced, .error error) => (reduced, .error error)
  | (reduced, .ok command) =>
    if event.isFetchFailure then (reduced, .ok command)
    else
      let (settled, further) := reduced.settle
      (settled, .ok (.combine [command, further]))

end Session

end TraceViewer
