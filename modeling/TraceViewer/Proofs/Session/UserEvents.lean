import TraceViewer.Session.Basic
import TraceViewer.Proofs.Simulation.Schedule

/-!
# Events of the user

Every event of the user selects a run, or does one of a few things that the rest of the
theory speaks of: it carries out an *operation* on the scope of the active run, asks for
the listing, clicks on a line, or changes whether the focused line is sticky
(`reduce_user`).
-/

namespace TraceViewer

namespace RunScope

/-- What the user can do to the scope of the active run. -/
inductive Operation where
  | refresh
  | scroll (kind : SequenceKind) (step : ScrollStep)
  | focusByOffset (kind : SequenceKind) (offset : Nat)
  | toggleAlerts (alertType : AlertType)
  | focusOp (key : GraphOpKey)
  | requestOp (key : GraphOpKey)
  | requestFile (file : SourceFile)

/-- Carry out an operation. -/
def operate (scope : RunScope) (run : RunId) :
    Operation → RunScope × Except ViewError Command
  | .refresh => ((scope.refresh run).1, .ok (scope.refresh run).2)
  | .scroll kind step => scope.scroll run kind step
  | .focusByOffset kind offset => (scope.focusByOffset kind offset, .ok .none)
  | .toggleAlerts alertType => scope.toggleAlerts run alertType
  | .focusOp key => (scope.focusOp key, .ok .none)
  | .requestOp key => ((scope.requestOp run key).1, .ok (scope.requestOp run key).2)
  | .requestFile file => scope.requestFile run file

end RunScope

namespace Session

variable {session : Session}

/-- What an event of the user does that selects no run. -/
inductive UserStep (session : Session) : Session × Except ViewError Command → Prop where
  | listing : UserStep session ({ session with runsLoad := session.runsLoad.start }, .ok .fetchRuns)
  | operate (pollOnset : Nat) (operation : RunScope.Operation) :
      UserStep session
        ({ session with pollOnset }.inRun fun scope run => scope.operate run operation)
  | click (frame : StackFrame) : UserStep session (session.onLineClicked frame, .ok .none)
  | stick (stickyFocus : Bool) : UserStep session ({ session with stickyFocus }, .ok .none)

/-- An event of the user selects a run, or does one of the other things. -/
theorem reduce_user (session : Session) (now : Nat) {event : Event}
    (huser : event.isUser = true) :
    (∃ run, event = .activeRunChanged run ∧ session.reduce now event = session.changeRun run) ∨
      session.UserStep (session.reduce now event) := by
  cases event with
  | activeRunChanged run => exact Or.inl ⟨run, rfl, rfl⟩
  | runsRequested => exact Or.inr .listing
  | pollStarted => exact Or.inr (.operate now .refresh)
  | refresh => exact Or.inr (.operate session.pollOnset .refresh)
  | scrollLeft kind => exact Or.inr (.operate session.pollOnset (.scroll kind .left))
  | scrollRight kind => exact Or.inr (.operate session.pollOnset (.scroll kind .right))
  | scrollToIndex kind index =>
      exact Or.inr (.operate session.pollOnset (.scroll kind (.toIndex index)))
  | focusByDisplayOffset kind offset =>
      exact Or.inr (.operate session.pollOnset (.focusByOffset kind offset))
  | alertTypeFocusToggled alertType =>
      exact Or.inr (.operate session.pollOnset (.toggleAlerts alertType))
  | graphOpFocused key => exact Or.inr (.operate session.pollOnset (.focusOp key))
  | graphOpInfoRequested key => exact Or.inr (.operate session.pollOnset (.requestOp key))
  | sourceLineClicked frame => exact Or.inr (.click frame)
  | sourceFileRequested file => exact Or.inr (.operate session.pollOnset (.requestFile file))
  | stickyFocusSet sticky => exact Or.inr (.stick sticky)
  | runsLoaded | runsFailed | loaded | fetchFailed => cases huser

end Session

end TraceViewer
