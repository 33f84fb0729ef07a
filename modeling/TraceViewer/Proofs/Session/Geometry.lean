import TraceViewer.Proofs.Paging.ViewGeometry
import TraceViewer.Proofs.Session.ReplyMarks
import TraceViewer.Proofs.Session.Settling
import TraceViewer.Proofs.Session.Backing

/-!
# Geometry

How a sequence is paged and how much of it is shown at once is laid down by the
configuration and never changes: no event of any kind touches the page size of a view or
the width of its window (`shaped_applyAll`).

A configuration is valid only when the window fits a page, so the views of a session can
always be asked for what their windows are missing (`PagedView.resolveWindow_of_fits`).
This needs nothing else of the state, and it is what keeps half of the operations from ever
being refused.
-/

namespace TraceViewer

/-! ## Timelines -/

namespace Timeline

variable {α : Type}

theorem view_issue (timeline : Timeline α) (run : RunId) (demand : PageDemand) :
    (timeline.issue run demand).1.view = timeline.view := by
  rw [issue]
  split_ifs <;> rfl

theorem geometry_scroll (timeline : Timeline α) (run : RunId) (step : ScrollStep) :
    (timeline.scroll run step).1.view.geometry = timeline.view.geometry := by
  rw [← geometry_moveView timeline.view step, scroll]
  rcases moveView timeline.view step with ⟨view, error | demand⟩
  · rfl
  · exact congrArg PagedView.geometry (view_issue { timeline with view } run demand)

theorem geometry_onTotal (timeline : Timeline α) (run : RunId) (total now : Nat) :
    (timeline.onTotal run total now).1.view.geometry = timeline.view.geometry := by
  rw [← PagedView.geometry_setNumItems timeline.view total, onTotal]
  rcases timeline.view.setNumItems total with ⟨view, error | demand⟩
  · rfl
  · exact congrArg PagedView.geometry (view_issue _ run demand)

theorem geometry_onPage (timeline : Timeline α) (run : RunId) (batch : Batch α) (now : Nat) :
    (timeline.onPage run batch now).1.view.geometry = timeline.view.geometry := by
  have hmerged : (timeline.merged batch now).view.geometry = timeline.view.geometry := by
    rw [merged_eq]
    exact timeline.view.geometry_merge batch
  have hresolved := (timeline.merged batch now).view.geometry_resolveWindow
  rcases timeline.onPage_cases run batch now with ⟨result, hpage⟩ | ⟨view, error, hview, hpage⟩ |
    ⟨view, demand, hview, hpage⟩ <;> rw [hpage]
  · exact hmerged
  · rw [hview] at hresolved
    exact hresolved.trans hmerged
  · rw [hview] at hresolved
    exact (congrArg PagedView.geometry (view_issue _ run demand)).trans (hresolved.trans hmerged)

end Timeline

/-! ## Scopes -/

/-- How a sequence is paged and shown. -/
def Config.geometry (config : Config) : SequenceKind → Geometry
  | .executions => config.executions
  | .graphExecutions => config.graphExecutions

namespace RunScope

/-- How a sequence is paged and shown. -/
def geometry (scope : RunScope) : SequenceKind → Geometry
  | .executions => scope.executions.digests.view.geometry
  | .graphExecutions => scope.graphExecutions.view.geometry

theorem geometry_of_eq {before after : RunScope}
    (hdigests : after.executions.digests.view.geometry =
      before.executions.digests.view.geometry)
    (hgraph : after.graphExecutions.view.geometry = before.graphExecutions.view.geometry) :
    after.geometry = before.geometry := by
  funext kind
  cases kind with
  | executions => exact hdigests
  | graphExecutions => exact hgraph

theorem geometry_withDigests {scope : RunScope} {digests : Timeline ExecutionDigest}
    (hdigests : digests.view.geometry = scope.executions.digests.view.geometry) :
    (scope.withDigests digests).geometry = scope.geometry :=
  geometry_of_eq hdigests rfl

theorem geometry_withGraphExecutions {scope : RunScope} {graphExecutions : Timeline GraphExecution}
    (hgraph : graphExecutions.view.geometry = scope.graphExecutions.view.geometry) :
    { scope with graphExecutions }.geometry = scope.geometry :=
  geometry_of_eq rfl hgraph

theorem geometry_scroll (scope : RunScope) (run : RunId) (kind : SequenceKind)
    (step : ScrollStep) : (scope.scroll run kind step).1.geometry = scope.geometry := by
  cases kind with
  | executions => exact geometry_withDigests (Timeline.geometry_scroll ..)
  | graphExecutions => exact geometry_withGraphExecutions (Timeline.geometry_scroll ..)

theorem geometry_toggleAlerts (scope : RunScope) (run : RunId) (alertType : AlertType) :
    (scope.toggleAlerts run alertType).1.geometry = scope.geometry := by
  refine toggleAlerts_induct (motive := fun after _ => after.geometry = scope.geometry)
    alertType rfl ?_ ?_
  · intro index
    exact geometry_scroll ..
  · intro moved _ hmoved
    exact hmoved

theorem geometry_requestFile (scope : RunScope) (run : RunId) (file : SourceFile) :
    (scope.requestFile run file).1.geometry = scope.geometry := by
  rw [requestFile]
  rcases scope.sources.requestFile file with error | ⟨sources, wanted⟩ <;> rfl

theorem geometry_operate (scope : RunScope) (run : RunId) (operation : Operation) :
    (scope.operate run operation).1.geometry = scope.geometry := by
  cases operation with
  | refresh => exact geometry_of_eq rfl rfl
  | scroll kind step => exact geometry_scroll ..
  | focusByOffset kind offset =>
      cases kind with
      | executions => exact geometry_of_eq rfl rfl
      | graphExecutions =>
          rw [operate, focusByOffset]
          dsimp only
          split <;> exact geometry_of_eq rfl rfl
  | toggleAlerts alertType => exact geometry_toggleAlerts ..
  | focusOp key => rfl
  | requestOp key => rfl
  | requestFile file => exact geometry_requestFile ..

theorem geometry_requestFocusedAlerts (scope : RunScope) (run : RunId) :
    (scope.requestFocusedAlerts run).1.geometry = scope.geometry := by
  rw [requestFocusedAlerts]
  split <;> rfl

theorem geometry_onReply (scope : RunScope) (run : RunId) (now : Nat) (reply : Reply) :
    (scope.onReply run now reply).1.geometry = scope.geometry := by
  cases reply with
  | numExecutions total =>
      refine numExecutions_induct (motive := fun after _ => after.geometry = scope.geometry)
        now total (geometry_withDigests (Timeline.geometry_onTotal ..)) ?_
      intro before _ htaken
      rw [focusFirst]
      split_ifs
      · exact (geometry_of_eq rfl rfl).trans htaken
      · exact htaken
  | numGraphExecutions total =>
      exact geometry_withGraphExecutions (Timeline.geometry_onTotal ..)
  | executionDigests batch => exact geometry_withDigests (Timeline.geometry_onPage ..)
  | graphExecutions batch => exact geometry_withGraphExecutions (Timeline.geometry_onPage ..)
  | executionData range records =>
      have hdigests := (onRecords_spec scope.executions range records).1
      exact geometry_of_eq (congrArg (fun digests => digests.view.geometry) hdigests) rfl
  | stackFrames frames => rfl
  | graphOpInfo op => rfl
  | sourceFileList files => rfl
  | sourceFile file lines =>
      rw [onReply]
      cases scope.sources.onFileLoaded file lines <;> rfl
  | numAlertsAndBreakdown tally =>
      exact geometry_requestFocusedAlerts ..
  | alertsOfType alertType range tally alerts =>
      -- a batch of alerts moves a window at most, and keeps its width
      refine alertsOfType_induct (motive := fun after _ => after.geometry = scope.geometry)
        now alertType range tally alerts rfl rfl ?_ ?_
      · intro index
        exact geometry_scroll ..
      · intro moved _ index hmoved
        exact (geometry_withGraphExecutions rfl).trans hmoved

theorem geometry_onFetchFailed (scope : RunScope) (request : Request) :
    (scope.onFetchFailed request).geometry = scope.geometry := by
  cases request with
  | page kind range => cases kind <;> exact geometry_of_eq rfl rfl
  | numExecutions | numGraphExecutions => exact geometry_of_eq rfl rfl
  | _ => rfl

theorem geometry_settle (scope : RunScope) (run : RunId) (sticky : Bool) :
    (scope.settle run sticky).1.geometry = scope.geometry := by
  obtain ⟨_, _, _, _, _, hsettled⟩ := scope.settle_eq run sticky
  rw [hsettled]
  exact geometry_of_eq rfl rfl

end RunScope

/-! ## Sessions -/

namespace Session

variable {session : Session}

/-- Take up events, one after the other, each at its time. -/
def applyAll (session : Session) (history : List (Event × Nat)) : Session :=
  history.foldl (fun session (event, now) => (session.apply event now).1) session

/-- What every event preserves is preserved along every history. -/
theorem applyAll_preserves {motive : Session → Prop}
    (hstep : ∀ (session : Session) (event : Event) (now : Nat), motive session →
      motive (session.apply event now).1)
    (hstart : motive session) (history : List (Event × Nat)) :
    motive (session.applyAll history) := by
  induction history generalizing session with
  | nil => exact hstart
  | cons step rest ih => exact ih (hstep session step.1 step.2 hstart)

/-- Both sequences are paged and shown as the configuration says. -/
def Shaped (session : Session) : Prop := session.scope.geometry = session.config.geometry

theorem geometry_fresh (config : Config) (valid : config.Valid) :
    (RunScope.fresh config valid).geometry = config.geometry := by
  funext kind
  cases kind <;> rfl

/-- A scope that keeps the geometry keeps the session in shape. -/
theorem Shaped.withScope (hshaped : session.Shaped) {scope : RunScope}
    (hgeometry : scope.geometry = session.scope.geometry) : { session with scope }.Shaped :=
  hgeometry.trans hshaped

/-- What no event changes: the configuration, and with it the geometry. -/
structure Reshapes (before after : Session) : Prop where
  config_eq : after.config = before.config
  shaped : before.Shaped → after.Shaped

theorem reshapes_withScope {scope : RunScope}
    (hgeometry : scope.geometry = session.scope.geometry) :
    session.Reshapes { session with scope } :=
  ⟨rfl, fun hshaped => hshaped.withScope hgeometry⟩

theorem Reshapes.trans {before middle after : Session} (hfirst : before.Reshapes middle)
    (hsecond : middle.Reshapes after) : before.Reshapes after :=
  ⟨hsecond.config_eq.trans hfirst.config_eq, fun hshaped => hsecond.shaped (hfirst.shaped hshaped)⟩

theorem reshapes_inRun {change : RunScope → RunId → RunScope × Except ViewError Command}
    (hchange : ∀ scope run, (change scope run).1.geometry = scope.geometry) :
    session.Reshapes (session.inRun change).1 := by
  rcases Option.eq_none_or_eq_some session.activeRun with hactive | ⟨run, hactive⟩
  · rw [inRun_of_none hactive]
    exact ⟨rfl, id⟩
  · rw [inRun_of_some hactive]
    exact reshapes_withScope (hchange ..)

theorem reshapes_changeRun (run : Option RunId) : session.Reshapes (session.changeRun run).1 := by
  have hfresh : session.Reshapes
      { session with activeRun := run, scope := .fresh session.config session.config_valid } :=
    ⟨rfl, fun _ => geometry_fresh session.config session.config_valid⟩
  exact hfresh.trans (reshapes_inRun fun scope run => scope.geometry_operate run .refresh)

theorem reshapes_reduce (now : Nat) (event : Event) :
    session.Reshapes (session.reduce now event).1 := by
  by_cases huser : event.isUser = true
  · rcases session.reduce_user now huser with ⟨run, _, hchange⟩ | hstep
    · rw [hchange]
      exact reshapes_changeRun run
    · generalize session.reduce now event = result at hstep
      cases hstep with
      | listing => exact ⟨rfl, id⟩
      | operate pollOnset operation =>
          have hstarted : session.Reshapes { session with pollOnset } := ⟨rfl, id⟩
          exact hstarted.trans
            (reshapes_inRun fun scope run => scope.geometry_operate run operation)
      | click frame => exact ⟨rfl, id⟩
      | stick stickyFocus => exact ⟨rfl, id⟩
  · cases event with
    | runsLoaded runs =>
        have hlisted : session.Reshapes
            { session with runs, runsLoad := session.runsLoad.finish now } := ⟨rfl, id⟩
        rw [reduce]
        split_ifs
        · exact hlisted
        · -- the scope of another run is made by the same configuration
          exact hlisted.trans (reshapes_changeRun _)
    | runsFailed => exact ⟨rfl, id⟩
    | loaded run reply =>
        have hreply := session.scope.geometry_onReply run now reply
        rw [reduce, onLoaded]
        split_ifs
        · rcases hresult : session.scope.onReply run now reply with
            ⟨scope, error | ⟨command, grew⟩⟩ <;> rw [hresult] at hreply
          · exact reshapes_withScope hreply
          · exact ⟨rfl, fun hshaped => hreply.trans hshaped⟩
        · exact ⟨rfl, id⟩
    | fetchFailed run request =>
        rw [reduce, onFetchFailed]
        split_ifs
        · exact reshapes_withScope (session.scope.geometry_onFetchFailed request)
        · exact ⟨rfl, id⟩
    | _ => exact absurd rfl huser

theorem reshapes_settle (session : Session) : session.Reshapes session.settle.1 := by
  rcases Option.eq_none_or_eq_some session.activeRun with hactive | ⟨run, hactive⟩
  · rw [settle_of_none hactive]
    exact ⟨rfl, id⟩
  · rw [settle_of_some hactive]
    exact reshapes_withScope (session.scope.geometry_settle run session.stickyFocus)

theorem reshapes_apply (session : Session) (event : Event) (now : Nat) :
    session.Reshapes (session.apply event now).1 := by
  have hreduced : session.Reshapes (session.reduce now event).1 := reshapes_reduce now event
  exact apply_induct (motive := fun after _ => session.Reshapes after) hreduced
    (hreduced.trans (reshapes_settle _))

theorem reshapes_applyAll (session : Session) (history : List (Event × Nat)) :
    session.Reshapes (session.applyAll history) :=
  applyAll_preserves
    (fun reached event now hreached => hreached.trans (reached.reshapes_apply event now)) ⟨rfl, id⟩
    history

/-- Whatever happens to a session, its sequences are paged and shown as the configuration
says that it was made with. -/
theorem shaped_applyAll (config : Config) (valid : config.Valid) (history : List (Event × Nat)) :
    ((fresh config valid).applyAll history).Shaped :=
  ((fresh config valid).reshapes_applyAll history).shaped (geometry_fresh config valid)

/-- The window of every view fits a page. -/
theorem Shaped.valid (hshaped : session.Shaped) (kind : SequenceKind) :
    (session.scope.geometry kind).Valid := by
  rw [hshaped]
  cases kind with
  | executions => exact session.config_valid.1
  | graphExecutions => exact session.config_valid.2

end Session

end TraceViewer
