import TraceViewer.Session.Outcome
import TraceViewer.Proofs.Simulation.Queue

/-!
# Operations that are made of others

Highlighting alerts, and taking up alerts or the total of the executions, are made of smaller
steps, of which the later ones may be left out.  A property of the scope that is left and of
the fetches that are queued holds of the whole when it holds of the first steps and the later
ones keep it.  There is one such principle for each of the three, so that an invariant only
looks at the steps.
-/

namespace TraceViewer.RunScope

variable {motive : RunScope → List PendingFetch → Prop} {scope : RunScope} {run : RunId}

/-- Highlighting alerts changes the highlight, may move the window to the first alert, and
may ask for the alerts. -/
theorem toggleAlerts_induct (alertType : AlertType)
    (toggled : motive { scope with alerts := scope.alerts.toggleFocus alertType } [])
    (recenter : ∀ index, motive
      (scroll { scope with alerts := scope.alerts.toggleFocus alertType } run .executions
        (.recenter index)).1
      (Command.queueOf (scroll { scope with alerts := scope.alerts.toggleFocus alertType } run
        .executions (.recenter index)).2))
    (request : ∀ moved queue, motive moved queue → motive (moved.requestAlerts run alertType).1
      (queue ++ (moved.requestAlerts run alertType).2.queue)) :
    motive (scope.toggleAlerts run alertType).1
      (Command.queueOf (scope.toggleAlerts run alertType).2) := by
  rw [toggleAlerts]
  dsimp only
  split_ifs
  · -- nothing is highlighted any more, so the window stays
    exact toggled
  · -- the window moves only if the alerts are there to tell where
    have hmoved : motive
        (recenterOnAlert { scope with alerts := scope.alerts.toggleFocus alertType } run
          alertType).1
        (Command.queueOf (recenterOnAlert
          { scope with alerts := scope.alerts.toggleFocus alertType } run alertType).2) := by
      rw [recenterOnAlert]
      split
      · exact toggled
      · exact recenter _
    rcases hrecenter : recenterOnAlert _ run alertType with ⟨moved, error | recentering⟩ <;>
      rw [hrecenter] at hmoved
    · exact hmoved
    · rw [Command.queueOf_combine_pair]
      exact request moved _ hmoved

/-- Alerts are refused, or they are merged and may move the window and the focus to what the
first of them points at. -/
theorem alertsOfType_induct (now : Nat) (alertType : AlertType) (range : Interval)
    (tally : AlertTally) (alerts : List Alert)
    (refused : motive { scope with alerts := scope.alerts.onFailed (some alertType) } [])
    (merged : motive
      { scope with alerts := scope.alerts.merge alertType range tally alerts now } [])
    (recenter : ∀ index, motive
      (scroll { scope with alerts := scope.alerts.merge alertType range tally alerts now } run
        .executions (.recenter index)).1
      (Command.queueOf (scroll
        { scope with alerts := scope.alerts.merge alertType range tally alerts now } run
        .executions (.recenter index)).2))
    (focus : ∀ moved queue index, motive moved queue → motive
      { moved with graphExecutions := moved.graphExecutions.setFocus (some index) } queue) :
    motive (scope.onReply run now (.alertsOfType alertType range tally alerts)).1
      (Command.queueOf
        ((scope.onReply run now (.alertsOfType alertType range tally alerts)).2.map
          Prod.fst)) := by
  rw [onReply, onAlerts]
  rcases AlertBoard.checkBatch range alerts with error | _
  · exact refused
  · dsimp only
    cases AlertBoard.jumpOf range alerts with
    | none => exact merged
    | some target =>
        have hmoved := recenter target.executionIndex
        dsimp only
        rw [jump]
        rcases hscroll : scroll _ run .executions (.recenter target.executionIndex) with
          ⟨moved, error | command⟩ <;> rw [hscroll] at hmoved
        · exact hmoved
        · -- a refused move leaves the focus of the graph alone
          cases target.graphExecutionIndex with
          | none => exact hmoved
          | some index => exact focus moved _ index hmoved

/-- The total of the executions is refused, or it is taken up and the first execution may
get the focus. -/
theorem numExecutions_induct (now total : Nat)
    (taken : motive (scope.withDigests (scope.executions.digests.onTotal run total now).1)
      (Command.queueOf ((scope.executions.digests.onTotal run total now).2.map Prod.fst)))
    (focus : ∀ before queue, motive before queue → motive (before.focusFirst total) queue) :
    motive (scope.onReply run now (.numExecutions total)).1
      (Command.queueOf ((scope.onReply run now (.numExecutions total)).2.map Prod.fst)) := by
  rw [onReply]
  rcases htotal : scope.executions.digests.onTotal run total now with
    ⟨digests, error | result⟩ <;> rw [htotal] at taken
  · exact taken
  · exact focus _ _ taken

end TraceViewer.RunScope
