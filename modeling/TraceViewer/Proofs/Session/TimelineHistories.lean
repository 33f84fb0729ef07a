import Mathlib.Logic.Relation
import TraceViewer.Proofs.Session.Geometry

/-!
# The histories of the timelines

A session does nothing to its two timelines but what they offer: it asks for their totals,
focuses and scrolls them, and tells them what became of their fetches (`Timeline.Change`).
What a single event makes of a timeline may be several such changes, but it is nothing
else, and a run that is selected starts with timelines of which nothing is known.

After any history of a session each of its timelines is therefore one that changes lead to
from a fresh one (`traced_applyAll`).  What fresh timelines have and every change preserves
holds of both timelines of every session that can be reached.
-/

namespace TraceViewer

/-! ## Timelines -/

namespace Timeline

variable {α : Type}

/-- One thing that a session does to a timeline. -/
inductive Change : Timeline α → Timeline α → Prop
  | requestTotal (timeline : Timeline α) (run : RunId) :
      Change timeline (timeline.requestTotal run).1
  | setFocus (timeline : Timeline α) (focus : Option Nat) :
      Change timeline (timeline.setFocus focus)
  | scroll (timeline : Timeline α) (run : RunId) (step : ScrollStep) :
      Change timeline (timeline.scroll run step).1
  | onTotal (timeline : Timeline α) (run : RunId) (total now : Nat) :
      Change timeline (timeline.onTotal run total now).1
  | onPage (timeline : Timeline α) (run : RunId) (batch : Batch α) (now : Nat) :
      Change timeline (timeline.onPage run batch now).1
  | onTotalFailed (timeline : Timeline α) : Change timeline timeline.onTotalFailed
  | onPageFailed (timeline : Timeline α) (range : Interval) :
      Change timeline (timeline.onPageFailed range)

/-- Changes lead from one timeline to another. -/
def Becomes : Timeline α → Timeline α → Prop := Relation.ReflTransGen Change

theorem becomes_self (timeline : Timeline α) : timeline.Becomes timeline := .refl

theorem Change.becomes {before after : Timeline α} (hchange : Change before after) :
    before.Becomes after := .single hchange

theorem Becomes.trans {before middle after : Timeline α} (hfirst : before.Becomes middle)
    (hsecond : middle.Becomes after) : before.Becomes after :=
  Relation.ReflTransGen.trans hfirst hsecond

/-- What every change preserves is preserved by any number of them. -/
theorem Becomes.preserves {motive : Timeline α → Prop}
    (hchange : ∀ {before after : Timeline α}, Change before after → motive before → motive after)
    {before after : Timeline α} (hbecomes : before.Becomes after) (hbefore : motive before) :
    motive after := by
  induction hbecomes with
  | refl => exact hbefore
  | tail _ hlast ih => exact hchange hlast ih

end Timeline

/-! ## Scopes -/

namespace RunScope

variable {scope before middle after : RunScope} {run : RunId}

/-- Changes lead from the timelines of one scope to those of another. -/
structure Becomes (before after : RunScope) : Prop where
  digests : before.executions.digests.Becomes after.executions.digests
  graphExecutions : before.graphExecutions.Becomes after.graphExecutions

/-- What touches neither timeline makes nothing of them. -/
theorem becomes_of_eq (hdigests : after.executions.digests = before.executions.digests)
    (hgraph : after.graphExecutions = before.graphExecutions) : before.Becomes after where
  digests := hdigests ▸ Timeline.becomes_self _
  graphExecutions := hgraph ▸ Timeline.becomes_self _

theorem Becomes.trans (hfirst : before.Becomes middle) (hsecond : middle.Becomes after) :
    before.Becomes after where
  digests := hfirst.digests.trans hsecond.digests
  graphExecutions := hfirst.graphExecutions.trans hsecond.graphExecutions

theorem becomes_withDigests {digests : Timeline ExecutionDigest}
    (hchange : Timeline.Change scope.executions.digests digests) :
    scope.Becomes (scope.withDigests digests) where
  digests := hchange.becomes
  graphExecutions := Timeline.becomes_self _

theorem becomes_withGraphExecutions {graphExecutions : Timeline GraphExecution}
    (hchange : Timeline.Change scope.graphExecutions graphExecutions) :
    scope.Becomes { scope with graphExecutions } where
  digests := Timeline.becomes_self _
  graphExecutions := hchange.becomes

theorem becomes_scroll (scope : RunScope) (run : RunId) (kind : SequenceKind)
    (step : ScrollStep) : scope.Becomes (scope.scroll run kind step).1 := by
  cases kind with
  | executions => exact becomes_withDigests (.scroll ..)
  | graphExecutions => exact becomes_withGraphExecutions (.scroll ..)

theorem becomes_toggleAlerts (scope : RunScope) (run : RunId) (alertType : AlertType) :
    scope.Becomes (scope.toggleAlerts run alertType).1 := by
  refine toggleAlerts_induct (motive := fun after _ => scope.Becomes after) alertType
    (becomes_of_eq rfl rfl) ?_ ?_
  · intro index
    have htoggled : scope.Becomes { scope with alerts := scope.alerts.toggleFocus alertType } :=
      becomes_of_eq rfl rfl
    exact htoggled.trans (becomes_scroll ..)
  · intro moved _ hmoved
    exact hmoved.trans (becomes_of_eq rfl rfl)

theorem becomes_focusByOffset (scope : RunScope) (kind : SequenceKind) (offset : Nat) :
    scope.Becomes (scope.focusByOffset kind offset) := by
  cases kind with
  | executions =>
      exact ⟨(Timeline.Change.setFocus ..).becomes, Timeline.becomes_self _⟩
  | graphExecutions =>
      -- the op of a graph execution that is held gets the focus as well
      have hfocused : scope.Becomes { scope with
          graphExecutions := scope.graphExecutions.setFocus
            (some (scope.graphExecutions.view.window.indexAt offset)) } :=
        becomes_withGraphExecutions (.setFocus ..)
      rw [focusByOffset]
      split
      · exact hfocused
      · exact hfocused.trans (becomes_of_eq rfl rfl)

theorem becomes_operate (scope : RunScope) (run : RunId) (operation : Operation) :
    scope.Becomes (scope.operate run operation).1 := by
  cases operation with
  | refresh =>
      exact ⟨(Timeline.Change.requestTotal _ run).becomes,
        (Timeline.Change.requestTotal _ run).becomes⟩
  | scroll kind step => exact becomes_scroll ..
  | focusByOffset kind offset => exact becomes_focusByOffset ..
  | toggleAlerts alertType => exact becomes_toggleAlerts ..
  | requestFile file =>
      obtain ⟨contents, hrequested⟩ := scope.requestFile_eq run file
      rw [operate, hrequested]
      exact becomes_of_eq rfl rfl
  | focusOp | requestOp => exact becomes_of_eq rfl rfl

theorem becomes_onReply (scope : RunScope) (run : RunId) (now : Nat) (reply : Reply) :
    scope.Becomes (scope.onReply run now reply).1 := by
  cases reply with
  | numExecutions total =>
      refine numExecutions_induct (motive := fun after _ => scope.Becomes after) now total
        (becomes_withDigests (.onTotal ..)) ?_
      intro before _ htaken
      rw [focusFirst]
      split_ifs
      · exact htaken.trans ⟨(Timeline.Change.setFocus ..).becomes, Timeline.becomes_self _⟩
      · exact htaken
  | numGraphExecutions total => exact becomes_withGraphExecutions (.onTotal ..)
  | executionDigests batch => exact becomes_withDigests (.onPage ..)
  | graphExecutions batch => exact becomes_withGraphExecutions (.onPage ..)
  | executionData range records =>
      exact becomes_of_eq (onRecords_spec scope.executions range records).1 rfl
  | sourceFile file lines =>
      rw [onReply]
      cases scope.sources.onFileLoaded file lines <;> exact becomes_of_eq rfl rfl
  | numAlertsAndBreakdown tally =>
      rw [onReply]
      dsimp only
      rw [requestFocusedAlerts]
      split <;> exact becomes_of_eq rfl rfl
  | alertsOfType alertType range tally alerts =>
      have hmerged : scope.Becomes
          { scope with alerts := scope.alerts.merge alertType range tally alerts now } :=
        becomes_of_eq rfl rfl
      refine alertsOfType_induct (motive := fun after _ => scope.Becomes after) now alertType
        range tally alerts (becomes_of_eq rfl rfl) hmerged ?_ ?_
      · intro index
        exact hmerged.trans (becomes_scroll ..)
      · intro moved _ index hmoved
        exact hmoved.trans (becomes_withGraphExecutions (.setFocus ..))
  | stackFrames | graphOpInfo | sourceFileList => exact becomes_of_eq rfl rfl

theorem becomes_onFetchFailed (scope : RunScope) (request : Request) :
    scope.Becomes (scope.onFetchFailed request) := by
  cases request with
  | numExecutions => exact becomes_withDigests (.onTotalFailed _)
  | numGraphExecutions => exact becomes_withGraphExecutions (.onTotalFailed _)
  | page kind range =>
      cases kind with
      | executions => exact becomes_withDigests (.onPageFailed ..)
      | graphExecutions => exact becomes_withGraphExecutions (.onPageFailed ..)
  | _ => exact becomes_of_eq rfl rfl

theorem becomes_settle (scope : RunScope) (run : RunId) (sticky : Bool) :
    scope.Becomes (scope.settle run sticky).1 := by
  obtain ⟨_, _, _, _, _, hsettled⟩ := scope.settle_eq run sticky
  rw [hsettled]
  exact becomes_of_eq rfl rfl

/-- Changes lead to both timelines of a scope from timelines of which nothing was known. -/
def Traced (scope : RunScope) : Prop :=
  ∃ (config : Config) (valid : config.Valid), (fresh config valid).Becomes scope

theorem traced_fresh (config : Config) (valid : config.Valid) : (fresh config valid).Traced :=
  ⟨config, valid, becomes_of_eq rfl rfl⟩

theorem Traced.becomes (htraced : before.Traced) (hbecomes : before.Becomes after) :
    after.Traced := by
  obtain ⟨config, valid, hstart⟩ := htraced
  exact ⟨config, valid, hstart.trans hbecomes⟩

/-- What fresh timelines have and every change preserves, both timelines of a scope have. -/
theorem Traced.both {motive : ∀ {α : Type}, Timeline α → Prop}
    (hfresh : ∀ {α : Type} (kind : SequenceKind) (geometry : Geometry) (valid : geometry.Valid),
      motive (Timeline.fresh kind geometry valid : Timeline α))
    (hchange : ∀ {α : Type} {before after : Timeline α}, Timeline.Change before after →
      motive before → motive after)
    (htraced : scope.Traced) :
    motive scope.executions.digests ∧ motive scope.graphExecutions := by
  obtain ⟨config, valid, hbecomes⟩ := htraced
  exact ⟨hbecomes.digests.preserves hchange (hfresh ..),
    hbecomes.graphExecutions.preserves hchange (hfresh ..)⟩

end RunScope

/-! ## Sessions -/

namespace Session

variable {session : Session}

theorem traced_inRun (htraced : session.scope.Traced)
    {change : RunScope → RunId → RunScope × Except ViewError Command}
    (hchange : ∀ (scope : RunScope) run, scope.Becomes (change scope run).1) :
    (session.inRun change).1.scope.Traced := by
  rcases Option.eq_none_or_eq_some session.activeRun with hactive | ⟨run, hactive⟩
  · rw [inRun_of_none hactive]
    exact htraced
  · rw [inRun_of_some hactive]
    exact htraced.becomes (hchange ..)

/-- A run that is selected starts with timelines of which nothing is known. -/
theorem traced_changeRun (session : Session) (run : Option RunId) :
    (session.changeRun run).1.scope.Traced := by
  have hfresh : RunScope.Traced { session with
      activeRun := run, scope := .fresh session.config session.config_valid }.scope :=
    RunScope.traced_fresh session.config session.config_valid
  exact traced_inRun hfresh fun scope run => scope.becomes_operate run .refresh

theorem traced_reduce (htraced : session.scope.Traced) (now : Nat) (event : Event) :
    (session.reduce now event).1.scope.Traced := by
  by_cases huser : event.isUser = true
  · rcases session.reduce_user now huser with ⟨run, _, hchange⟩ | hstep
    · rw [hchange]
      exact session.traced_changeRun run
    · generalize session.reduce now event = result at hstep
      cases hstep with
      | operate pollOnset operation =>
          have hstarted : { session with pollOnset }.scope.Traced := htraced
          exact traced_inRun hstarted fun scope run => scope.becomes_operate run operation
      | click frame => exact htraced.becomes (RunScope.becomes_of_eq rfl rfl)
      | listing | stick => exact htraced
  · cases event with
    | runsLoaded runs =>
        rw [reduce]
        split_ifs
        · exact htraced
        · exact traced_changeRun _ _
    | runsFailed => exact htraced
    | loaded run reply =>
        have hreply := session.scope.becomes_onReply run now reply
        rw [reduce, onLoaded]
        split_ifs
        · rcases hresult : session.scope.onReply run now reply with
            ⟨scope, error | ⟨command, grew⟩⟩ <;> rw [hresult] at hreply <;>
            exact htraced.becomes hreply
        · exact htraced
    | fetchFailed run request =>
        rw [reduce, onFetchFailed]
        split_ifs
        · exact htraced.becomes (session.scope.becomes_onFetchFailed request)
        · exact htraced
    | _ => exact absurd rfl huser

theorem traced_settle (htraced : session.scope.Traced) : session.settle.1.scope.Traced := by
  rcases Option.eq_none_or_eq_some session.activeRun with hactive | ⟨run, hactive⟩
  · rw [settle_of_none hactive]
    exact htraced
  · rw [settle_of_some hactive]
    exact htraced.becomes (session.scope.becomes_settle run session.stickyFocus)

theorem traced_apply (htraced : session.scope.Traced) (event : Event) (now : Nat) :
    (session.apply event now).1.scope.Traced := by
  have hreduced := traced_reduce htraced now event
  exact apply_induct (motive := fun after _ => after.scope.Traced) hreduced
    (traced_settle hreduced)

/-- Whatever happens to a session, nothing but changes leads to its timelines from fresh
ones. -/
theorem traced_applyAll (config : Config) (valid : config.Valid)
    (history : List (Event × Nat)) :
    ((fresh config valid).applyAll history).scope.Traced :=
  applyAll_preserves (motive := fun session => session.scope.Traced)
    (fun _ event now htraced => traced_apply htraced event now)
    (RunScope.traced_fresh config valid) history

end Session

end TraceViewer
