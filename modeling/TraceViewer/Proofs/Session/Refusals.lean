import Mathlib.Data.List.Permutation
import TraceViewer.Proofs.Session.Geometry

/-!
# Refusals

An event that is refused leaves the session intact (`intact_of_refused`): nothing that
the session holds, shows or follows is different, and nothing is newly marked as being
fetched.  All that can go is a mark, namely that of the fetch whose answer was refused,
and all that can be said of it is that loading failed.

An event could be refused half-way, after something was changed or marked already.  That
this does not happen has two reasons.

* A total, a batch and a range of records are checked before anything of them is taken
  in, and so are alerts and the name of a file.
* What is done after such a check is asking for a window, and a window that fits a page
  can always be asked for (`resolveWindow_of_fits`).  A jump to an alert is therefore
  never refused, and neither is highlighting alerts.
-/

namespace TraceViewer

/-- A stage of loading is the one from before, or says that loading failed. -/
def LoadState.SameOrFailed (before after : LoadState) : Prop :=
  after = before ∨ after = before.fail

/-- Where loading failed, nothing is loading. -/
theorem LoadState.SameOrFailed.isLoading {before after : LoadState}
    (hload : before.SameOrFailed after) (hloading : after.isLoading = true) :
    before.isLoading = true := by
  rcases hload with rfl | rfl
  · exact hloading
  · exact absurd hloading (by simp [LoadState.fail, LoadState.isLoading])

/-! ## Timelines -/

/-- Nothing of a sequence is different but that marks may be gone. -/
structure PagedSequence.Intact {α : Type} (before after : PagedSequence α) : Prop where
  pageSize_eq : after.pageSize = before.pageSize
  numItems_eq : after.numItems = before.numItems
  items_eq : after.items = before.items
  loadedSizes_eq : after.loadedSizes = before.loadedSizes
  inFlight : ∀ {page requestedEnd : Nat}, after.inFlight[page]? = some requestedEnd →
    before.inFlight[page]? = some requestedEnd

theorem PagedSequence.intact_release {α : Type} (sequence : PagedSequence α) (range : Interval) :
    sequence.Intact (sequence.release range).1 where
  pageSize_eq := rfl
  numItems_eq := rfl
  items_eq := rfl
  loadedSizes_eq := rfl
  inFlight := by
    intro page requestedEnd hmark
    rw [getElem?_inFlight_release, Option.filter_eq_some_iff] at hmark
    exact hmark.1

namespace Timeline

variable {α : Type} {timeline after : Timeline α} {run : RunId} {error : ViewError}

/-- Nothing of a timeline is different but that marks may be gone and loading may have
failed. -/
structure Intact (before after : Timeline α) : Prop where
  kind_eq : after.kind = before.kind
  window_eq : after.view.window = before.view.window
  sequence : before.view.sequence.Intact after.view.sequence
  totalLoad : before.totalLoad.SameOrFailed after.totalLoad
  pagesLoad : before.pagesLoad.SameOrFailed after.pagesLoad

theorem intact_self (timeline : Timeline α) : timeline.Intact timeline where
  kind_eq := rfl
  window_eq := rfl
  sequence := ⟨rfl, rfl, rfl, rfl, id⟩
  totalLoad := Or.inl rfl
  pagesLoad := Or.inl rfl

theorem Intact.marked (hintact : timeline.Intact after) {mark : SequenceMark}
    (hmark : after.Marked mark) : timeline.Marked mark := by
  cases mark with
  | total => exact hintact.totalLoad.isLoading hmark
  | page start requestedEnd =>
      obtain ⟨page, hmarked, hstart⟩ := hmark
      exact ⟨page, hintact.sequence.inFlight hmarked, hintact.sequence.pageSize_eq ▸ hstart⟩

/-- Only the movement to an index past the last window is refused. -/
theorem eq_self_of_scroll_refused (hfits : timeline.view.Fits) {step : ScrollStep}
    (hrefused : timeline.scroll run step = (after, .error error)) :
    after = timeline ∧ ∃ index, step = .toIndex index := by
  rcases PagedView.moveView_cases hfits step with ⟨index, rfl, _, hmoved⟩ |
    ⟨_, view, demand, hmoved, _⟩ <;> rw [scroll, hmoved] at hrefused <;> cases hrefused
  exact ⟨rfl, index, rfl⟩

/-- A total is refused before anything is asked for. -/
theorem intact_onTotal (hfits : timeline.view.Fits) {total now : Nat}
    (hrefused : timeline.onTotal run total now = (after, .error error)) :
    timeline.Intact after := by
  by_cases hshrunk : total < timeline.numItems
  · -- a total that shrinks the sequence is refused, and only its mark is taken
    obtain ⟨_, hlt⟩ := onTotal_of_lt hshrunk run now
    rw [hlt] at hrefused
    cases hrefused
    exact
      { kind_eq := rfl
        window_eq := rfl
        sequence := ⟨rfl, rfl, rfl, rfl, id⟩
        totalLoad := Or.inr rfl
        pagesLoad := Or.inl rfl }
  · -- the window is asked for at the new total, and that is never refused
    obtain ⟨view, demand, hset, _⟩ :=
      PagedView.carriesOut_setNumItems hfits (Nat.le_of_not_lt hshrunk)
    rw [onTotal, hset] at hrefused
    cases hrefused

/-- A batch is refused before anything of it is taken in. -/
theorem intact_onPage (hvalid : timeline.view.geometry.Valid) {batch : Batch α} {now : Nat}
    (hrefused : timeline.onPage run batch now = (after, .error error)) :
    timeline.Intact after := by
  by_cases haccepts : timeline.view.sequence.Accepts batch
  · -- the window that is asked for afterwards fits a page as before
    have hgeometry : (timeline.merged batch now).view.geometry = timeline.view.geometry := by
      rw [merged_eq]
      exact timeline.view.geometry_merge batch
    obtain ⟨view, demand, hresolve⟩ :=
      PagedView.resolveWindow_of_fits (PagedView.fits_of_valid (hgeometry ▸ hvalid))
    -- accepted, and then nothing is refused any more
    rcases Nat.lt_or_ge timeline.numItems batch.total with hlt | hle
    · rw [onPage_of_grown haccepts hlt, hresolve] at hrefused
      cases hrefused
    · rw [onPage_of_accepts_le haccepts hle] at hrefused
      cases hrefused
  · obtain ⟨_, hmerged⟩ := onPage_of_not_accepts haccepts run now
    rw [hmerged] at hrefused
    cases hrefused
    obtain ⟨_, hmerge⟩ := PagedSequence.merge_of_not_accepts haccepts
    have hview : (timeline.view.merge batch).1 =
        { timeline.view with sequence := (timeline.view.sequence.release batch.range).1 } := by
      rw [PagedView.merge, hmerge]
    have hsequence := timeline.view.sequence.intact_release batch.range
    rw [merged, if_neg haccepts, hview]
    split_ifs
    · exact ⟨rfl, rfl, hsequence, Or.inl rfl, Or.inr rfl⟩
    · exact ⟨rfl, rfl, hsequence, Or.inl rfl, Or.inl rfl⟩

end Timeline

/-! ## Scopes -/

/-- Nothing of an alert board is different but that marks may be gone and loading may
have failed. -/
structure AlertBoard.Intact (before after : AlertBoard) : Prop where
  tally_eq : after.tally = before.tally
  shelves_eq : after.shelves = before.shelves
  focusType_eq : after.focusType = before.focusType
  load : before.load.SameOrFailed after.load
  inFlight : ∀ alertType ∈ after.inFlight, alertType ∈ before.inFlight

namespace RunScope

variable {scope after : RunScope} {run : RunId} {error : ViewError}

/-- Nothing of a scope is different but that marks may be gone and loading may have
failed. -/
structure Intact (before after : RunScope) : Prop where
  digests : before.executions.digests.Intact after.executions.digests
  records_eq : after.executions.records = before.executions.records
  recordsInFlight : ∀ index ∈ after.executions.recordsInFlight,
    index ∈ before.executions.recordsInFlight
  graphExecutions : before.graphExecutions.Intact after.graphExecutions
  alerts : before.alerts.Intact after.alerts
  ops_eq : after.ops = before.ops
  frames_eq : after.frames = before.frames
  framesInFlight_eq : after.framesInFlight = before.framesInFlight
  location_eq : after.location = before.location
  sources_eq : after.sources = before.sources

theorem intact_self (scope : RunScope) : scope.Intact scope where
  digests := scope.executions.digests.intact_self
  records_eq := rfl
  recordsInFlight := fun _ => id
  graphExecutions := scope.graphExecutions.intact_self
  alerts := ⟨rfl, rfl, rfl, Or.inl rfl, fun _ => id⟩
  ops_eq := rfl
  frames_eq := rfl
  framesInFlight_eq := rfl
  location_eq := rfl
  sources_eq := rfl

theorem intact_withDigests {digests : Timeline ExecutionDigest}
    (hdigests : scope.executions.digests.Intact digests) :
    scope.Intact (scope.withDigests digests) :=
  { scope.intact_self with digests := hdigests }

theorem intact_withGraphExecutions {graphExecutions : Timeline GraphExecution}
    (hgraph : scope.graphExecutions.Intact graphExecutions) :
    scope.Intact { scope with graphExecutions } :=
  { scope.intact_self with graphExecutions := hgraph }

theorem Intact.marked (hintact : scope.Intact after) {mark : Mark} (hmark : after.Marked mark) :
    scope.Marked mark := by
  cases mark with
  | sequence kind mark =>
      cases kind with
      | executions => exact hintact.digests.marked hmark
      | graphExecutions => exact hintact.graphExecutions.marked hmark
  | record index => exact hintact.recordsInFlight index hmark
  | frame id =>
      change id ∈ scope.framesInFlight
      rw [← hintact.framesInFlight_eq]
      exact hmark
  | op key =>
      change scope.ops.phase key = .loading
      rw [← hintact.ops_eq]
      exact hmark
  | alerts => exact hintact.alerts.load.isLoading hmark
  | alertsOfType alertType => exact hintact.alerts.inFlight alertType hmark
  | fileList =>
      change scope.sources.listLoad.isLoading = true
      rw [← hintact.sources_eq]
      exact hmark
  | file file =>
      change scope.sources.IsLoading file
      rw [← hintact.sources_eq]
      exact hmark

variable (hvalid : ∀ kind, (scope.geometry kind).Valid)

include hvalid in
/-- Putting something in the middle of the window is never refused. -/
theorem recenter_accepted (index : Nat) :
    scope.scroll run .executions (.recenter index) ≠ (after, .error error) := by
  rw [scroll]
  rcases hscroll : scope.executions.digests.scroll run (.recenter index) with
    ⟨digests, error | command⟩
  · obtain ⟨_, _, hstep⟩ := Timeline.eq_self_of_scroll_refused
      (PagedView.fits_of_valid (hvalid .executions)) hscroll
    cases hstep
  · simp

include hvalid in
theorem intact_scroll {kind : SequenceKind} {step : ScrollStep}
    (hrefused : scope.scroll run kind step = (after, .error error)) : scope.Intact after := by
  cases kind with
  | executions =>
      rw [scroll] at hrefused
      rcases hscroll : scope.executions.digests.scroll run step with ⟨digests, error | command⟩ <;>
        rw [hscroll] at hrefused <;> cases hrefused
      obtain ⟨rfl, _⟩ := Timeline.eq_self_of_scroll_refused
        (PagedView.fits_of_valid (hvalid .executions)) hscroll
      exact intact_withDigests (Timeline.intact_self _)
  | graphExecutions =>
      rw [scroll] at hrefused
      rcases hscroll : scope.graphExecutions.scroll run step with ⟨graph, error | command⟩ <;>
        rw [hscroll] at hrefused <;> cases hrefused
      obtain ⟨rfl, _⟩ := Timeline.eq_self_of_scroll_refused
        (PagedView.fits_of_valid (hvalid .graphExecutions)) hscroll
      exact intact_withGraphExecutions (Timeline.intact_self _)

include hvalid in
/-- Highlighting alerts is never refused. -/
theorem toggleAlerts_accepted (alertType : AlertType) :
    scope.toggleAlerts run alertType ≠ (after, .error error) := by
  rw [toggleAlerts]
  dsimp only
  split_ifs with hnone
  · simp
  · rcases hrecenter : recenterOnAlert
        { scope with alerts := scope.alerts.toggleFocus alertType } run alertType with
      ⟨moved, error | recentering⟩
    · rw [recenterOnAlert] at hrecenter
      split at hrecenter
      · cases hrecenter
      · have htoggled : ∀ kind, (geometry
            { scope with alerts := scope.alerts.toggleFocus alertType } kind).Valid := hvalid
        exact absurd hrecenter (recenter_accepted htoggled _)
    · simp

theorem intact_requestFile {file : SourceFile}
    (hrefused : scope.requestFile run file = (after, .error error)) : scope.Intact after := by
  rw [requestFile] at hrefused
  split at hrefused <;> cases hrefused
  exact scope.intact_self

include hvalid in
theorem intact_onAlerts {alertType : AlertType} {range : Interval} {tally : AlertTally}
    {alerts : List Alert} {now : Nat}
    (hrefused : scope.onAlerts run alertType range tally alerts now = (after, .error error)) :
    scope.Intact after := by
  rw [onAlerts] at hrefused
  cases hcheck : AlertBoard.checkBatch range alerts with
  | error error =>
      rw [hcheck] at hrefused
      cases hrefused
      exact
        { scope.intact_self with
          alerts :=
            { tally_eq := rfl
              shelves_eq := rfl
              focusType_eq := rfl
              load := Or.inr rfl
              inFlight := fun other hmem => Std.ExtTreeSet.mem_of_mem_erase hmem } }
  | ok =>
      rw [hcheck] at hrefused
      cases hjump : AlertBoard.jumpOf range alerts with
      | none =>
          rw [hjump] at hrefused
          cases hrefused
      | some target =>
          -- the alerts are taken in by now, but the jump cannot be refused
          rw [hjump] at hrefused
          dsimp only at hrefused
          rw [jump] at hrefused
          split at hrefused
          · rename_i hscroll
            let merged :=
              { scope with alerts := scope.alerts.merge alertType range tally alerts now }
            have hmerged : ∀ kind, (merged.geometry kind).Valid := hvalid
            exact absurd hscroll (recenter_accepted hmerged target.executionIndex)
          · split at hrefused <;> cases hrefused

include hvalid in
/-- A reply that is refused takes marks, and nothing of it is taken in. -/
theorem intact_onReply {reply : Reply} {now : Nat}
    (hrefused : scope.onReply run now reply = (after, .error error)) : scope.Intact after := by
  cases reply with
  | numExecutions total =>
      rw [onReply] at hrefused
      rcases htotal : scope.executions.digests.onTotal run total now with
        ⟨digests, error | result⟩ <;> rw [htotal] at hrefused <;> cases hrefused
      exact intact_withDigests
        (Timeline.intact_onTotal (PagedView.fits_of_valid (hvalid .executions)) htotal)
  | numGraphExecutions total =>
      rw [onReply] at hrefused
      rcases htotal : scope.graphExecutions.onTotal run total now with
        ⟨graph, error | result⟩ <;> rw [htotal] at hrefused <;> cases hrefused
      exact intact_withGraphExecutions
        (Timeline.intact_onTotal (PagedView.fits_of_valid (hvalid .graphExecutions)) htotal)
  | executionDigests batch =>
      rw [onReply] at hrefused
      rcases hpage : scope.executions.digests.onPage run batch now with
        ⟨digests, error | result⟩ <;> rw [hpage] at hrefused <;> cases hrefused
      -- a page that is refused still releases its range
      exact intact_withDigests (Timeline.intact_onPage (hvalid .executions) hpage)
  | graphExecutions batch =>
      rw [onReply] at hrefused
      rcases hpage : scope.graphExecutions.onPage run batch now with
        ⟨graph, error | result⟩ <;> rw [hpage] at hrefused <;> cases hrefused
      exact intact_withGraphExecutions (Timeline.intact_onPage (hvalid .graphExecutions) hpage)
  | executionData range records =>
      rw [onReply, ExecutionTimeline.onRecords] at hrefused
      dsimp only at hrefused
      split_ifs at hrefused <;> cases hrefused
      exact
        { scope.intact_self with
          recordsInFlight := fun index hmem => Std.ExtTreeSet.mem_of_mem_filter hmem }
  | stackFrames frames => cases hrefused
  | graphOpInfo op =>
      rw [onReply] at hrefused
      rcases hop : scope.ops.onLoaded op with ⟨ops, error | ok⟩ <;> rw [hop] at hrefused <;>
        cases hrefused
      rw [OpStore.onLoaded] at hop
      split at hop <;> cases hop
      exact scope.intact_self
  | sourceFileList files => cases hrefused
  | sourceFile file lines =>
      rw [onReply] at hrefused
      split at hrefused <;> cases hrefused
      exact scope.intact_self
  | numAlertsAndBreakdown tally => cases hrefused
  | alertsOfType alertType range tally alerts =>
      rw [onReply] at hrefused
      rcases halerts : scope.onAlerts run alertType range tally alerts now with
        ⟨taken, error | command⟩ <;> rw [halerts] at hrefused <;> cases hrefused
      exact intact_onAlerts hvalid halerts

end RunScope

/-! ## Sessions -/

namespace Session

variable {session after : Session} {error : ViewError}

/-- Nothing of a session is different but that marks may be gone and loading may have
failed. -/
structure Intact (before after : Session) : Prop where
  config_eq : after.config = before.config
  runs_eq : after.runs = before.runs
  runsLoad_eq : after.runsLoad = before.runsLoad
  activeRun_eq : after.activeRun = before.activeRun
  pollOnset_eq : after.pollOnset = before.pollOnset
  lastNonEmptyPoll_eq : after.lastNonEmptyPoll = before.lastNonEmptyPoll
  stickyFocus_eq : after.stickyFocus = before.stickyFocus
  scope : before.scope.Intact after.scope

theorem intact_withScope {scope : RunScope} (hscope : session.scope.Intact scope) :
    session.Intact { session with scope } :=
  ⟨rfl, rfl, rfl, rfl, rfl, rfl, rfl, hscope⟩

/-- What is refused in a run is the change of its scope. -/
theorem inRun_refused {change : RunScope → RunId → RunScope × Except ViewError Command}
    (hrefused : session.inRun change = (after, .error error)) :
    ∃ run scope, change session.scope run = (scope, .error error) ∧
      after = { session with scope } := by
  rcases Option.eq_none_or_eq_some session.activeRun with hactive | ⟨run, hactive⟩
  · rw [inRun_of_none hactive] at hrefused
    cases hrefused
  · rw [inRun_of_some hactive, Prod.mk.injEq] at hrefused
    exact ⟨run, _, Prod.ext rfl hrefused.2, hrefused.1.symm⟩

theorem intact_inRun {change : RunScope → RunId → RunScope × Except ViewError Command}
    (hrefused : session.inRun change = (after, .error error))
    (hchange : ∀ {run scope}, change session.scope run = (scope, .error error) →
      session.scope.Intact scope) : session.Intact after := by
  obtain ⟨run, scope, hscope, rfl⟩ := inRun_refused hrefused
  exact intact_withScope (hchange hscope)

theorem adjustRun_accepted {change : RunScope → RunId → RunScope × Command} :
    session.adjustRun change ≠ (after, .error error) := by
  intro hrefused
  obtain ⟨run, scope, hchange, _⟩ := inRun_refused hrefused
  cases hchange

/-- Selecting a run is never refused. -/
theorem changeRun_accepted (run : Option RunId) :
    session.changeRun run ≠ (after, .error error) := by
  rw [changeRun, refresh]
  exact adjustRun_accepted

theorem intact_reduce (hshaped : session.Shaped) {event : Event} {now : Nat}
    (hrefused : session.reduce now event = (after, .error error)) : session.Intact after := by
  have hvalid := hshaped.valid
  cases event with
  | runsLoaded runs =>
      rw [reduce] at hrefused
      split_ifs at hrefused
      · cases hrefused
      · -- a run can always be selected
        exact absurd hrefused (changeRun_accepted _)
  | activeRunChanged run => exact absurd hrefused (changeRun_accepted run)
  | scrollLeft | scrollRight | scrollToIndex =>
      rw [reduce] at hrefused
      exact intact_inRun hrefused (RunScope.intact_scroll hvalid)
  | alertTypeFocusToggled alertType =>
      rw [reduce] at hrefused
      exact intact_inRun hrefused fun htoggled =>
        absurd htoggled (RunScope.toggleAlerts_accepted hvalid alertType)
  | sourceFileRequested file =>
      rw [reduce] at hrefused
      exact intact_inRun hrefused RunScope.intact_requestFile
  | pollStarted | refresh =>
      rw [reduce, refresh] at hrefused
      exact absurd hrefused adjustRun_accepted
  | focusByDisplayOffset | graphOpFocused | graphOpInfoRequested =>
      rw [reduce] at hrefused
      exact absurd hrefused adjustRun_accepted
  | runsRequested | runsFailed | sourceLineClicked | stickyFocusSet | fetchFailed =>
      cases hrefused
  | loaded run reply =>
      rw [reduce, onLoaded] at hrefused
      split_ifs at hrefused
      · rcases hreply : session.scope.onReply run now reply with ⟨scope, error | result⟩ <;>
          rw [hreply] at hrefused <;> cases hrefused
        exact intact_withScope (RunScope.intact_onReply hvalid hreply)
      · cases hrefused

/-- An event that is refused leaves the session intact, and marks nothing. -/
theorem intact_of_refused (config : Config) (valid : config.Valid)
    (history : List (Event × Nat)) (event : Event) (now : Nat)
    (hrefused : ((fresh config valid).applyAll history).apply event now = (after, .error error)) :
    let session := (fresh config valid).applyAll history
    session.Intact after ∧ ∀ mark, after.scope.Marked mark → session.scope.Marked mark := by
  intro session
  have hreduced : session.reduce now event = (after, .error error) := by
    rw [apply] at hrefused
    rcases hresult : session.reduce now event with ⟨reduced, error | command⟩ <;>
      rw [hresult] at hrefused
    · exact hrefused
    · dsimp only at hrefused
      split_ifs at hrefused <;> cases hrefused
  have hintact := intact_reduce (shaped_applyAll config valid history) hreduced
  exact ⟨hintact, fun _ => hintact.scope.marked⟩

/-- A batch that does not fill its range is refused: the page that it was asked for is no
longer marked, and the session is intact otherwise. -/
theorem intact_after_misfit_batch :
    let session := (fresh {} (by decide)).applyAll
      [(.activeRunChanged (some "run"), 0), (.loaded "run" (.numExecutions 3), 1)]
    let event := Event.loaded "run" (.executionDigests ⟨⟨0, 3⟩, [], 3⟩)
    session.scope.executions.digests.view.sequence.isInFlight 0 = true ∧
      (session.apply event 2).1.scope.executions.digests.view.sequence.isInFlight 0 = false ∧
      session.Intact (session.apply event 2).1 := by
  have hrefused : (((fresh {} (by decide)).applyAll
      [(.activeRunChanged (some "run"), 0), (.loaded "run" (.numExecutions 3), 1)]).apply
        (.loaded "run" (.executionDigests ⟨⟨0, 3⟩, [], 3⟩)) 2).2 =
      .error (.invalidArgument (.misfitBatch 0 3 0 3)) := by
    cbv
  refine ⟨by decide +kernel, by decide +kernel, ?_⟩
  exact (intact_of_refused {} (by decide) _ _ 2 (Prod.ext rfl hrefused)).1

end Session

end TraceViewer
