import TraceViewer.Session.RunScope

/-!
# Settling

After an event the scope of a run settles: whatever the current focus is missing is
asked for, and a sticky line is moved to where the stack trace now ends in its file.

Settling asks only for what is neither held nor being fetched.  A fetch that failed
is therefore repeated after the next event, and never because of the failure itself.
-/

namespace TraceViewer.RunScope

/-- Ask for the record of the item whose call stack is shown. -/
def requestOrigin (scope : RunScope) (run : RunId) : RunScope × Command :=
  match scope.focusOrigin with
  | none => (scope, .none)
  | some (.execution index) =>
    let (executions, command) := scope.executions.requestRecord run index
    ({ scope with executions }, command)
  | some (.graphOpCreation key) => scope.requestOp run key

/-- The frames that the current stack trace is missing and that are not being
fetched. -/
def missingFrames (scope : RunScope) : List FrameId :=
  ((scope.focusOrigin.bind scope.originFrameIds).map
    (StackTrace.missingIds scope.frames scope.framesInFlight)).getD []

/-- Ask for the frames that the current stack trace is missing. -/
def requestMissingFrames (scope : RunScope) (run : RunId) : RunScope × Command :=
  match scope.missingFrames with
  | [] => (scope, .none)
  | missing =>
    ({ scope with framesInFlight := scope.framesInFlight.insertMany missing },
      .fetch run (.stackFrames missing))

/-- Move the focused line to the last frame of the current stack trace that lies in
its file. -/
def followLastFrame (scope : RunScope) : RunScope :=
  match scope.currentFrames, scope.sources.focusLine with
  | some frames, some line =>
    (StackTrace.follow frames line).elim scope scope.setFocusLine
  | _, _ => scope

/-- Ask for the file of the focused line.  A file that is not listed has to wait for
the list to catch up. -/
def requestFocusedFile (scope : RunScope) (run : RunId) : RunScope × Command :=
  match scope.sources.focusLine with
  | none => (scope, .none)
  | some line =>
    match scope.requestFile run line.file with
    | (_, .error _) => (scope, .none)
    | (requested, .ok command) => (requested, command)

/-- Ask for what the focus is missing, and let a sticky line follow the trace. -/
def settle (scope : RunScope) (run : RunId) (sticky : Bool) : RunScope × Command :=
  let (originated, record) := scope.requestOrigin run
  let (framed, frames) := originated.requestMissingFrames run
  let followed := if sticky then framed.followLastFrame else framed
  let (settled, file) := followed.requestFocusedFile run
  (settled, .combine [record, frames, file])

end TraceViewer.RunScope
