import TraceViewer.Proofs.Session.AskedOnce

/-!
# How a scope responds to an event

Whatever an event is, the scope that takes it up does one of five things: it stays as it is,
carries out an operation of the user, puts the focus on a line, takes up a reply, or takes up
that a fetch failed (`responds_reduce`).  What all of these preserve is preserved by every event,
so an invariant of scopes only has to look at the five.

The source files stand apart.  But for the stage of the list, the shelf they are on is neither
looked at nor changed by anything that is not about them (`operate_withShelf`,
`onReply_withShelf`, `onFetchFailed_withShelf`).  So what becomes of the files can be followed on
the shelf alone (`SourceShelf.Moves`), and what becomes of the rest can be followed on a scope
without files.
-/

namespace TraceViewer

namespace RunScope

/-! ## Responses -/

/-- What a scope may do with an event while a run is active, or none, and what it asks for. -/
inductive Responds : Option RunId → Event → RunScope → RunScope → List PendingFetch → Prop where
  | rest (active : Option RunId) (event : Event) (scope : RunScope) (queue : List PendingFetch)
      (hnothing : dataOf queue = []) : Responds active event scope scope queue
  | operate (run : RunId) (event : Event) (scope : RunScope) (operation : Operation) :
      Responds (some run) event scope (scope.operate run operation).1
        (Command.queueOf (scope.operate run operation).2)
  | click (active : Option RunId) (frame : StackFrame) (scope : RunScope) :
      Responds active (.sourceLineClicked frame) scope (scope.setFocusLine frame) []
  | reply (run : RunId) (now : Nat) (reply : Reply) (scope : RunScope) :
      Responds (some run) (.loaded run reply) scope (scope.onReply run now reply).1
        (Command.queueOf ((scope.onReply run now reply).2.map Prod.fst))
  | fail (run : RunId) (request : Request) (scope : RunScope) :
      Responds (some run) (.fetchFailed run request) scope (scope.onFetchFailed request) []

end RunScope

namespace Session

open RunScope

variable {session : Session}

theorem responds_inRun (session : Session) (event : Event) (operation : Operation) :
    let result := session.inRun fun scope run => scope.operate run operation
    Responds result.1.activeRun event session.scope result.1.scope
      (Command.queueOf result.2) := by
  rcases Option.eq_none_or_eq_some session.activeRun with hactive | ⟨run, hactive⟩
  · rw [inRun_of_none hactive]
    exact .rest _ _ _ _ rfl
  · rw [inRun_of_some hactive]
    dsimp only
    rw [hactive]
    exact .operate ..

/-- Selecting a run refreshes a fresh scope. -/
theorem responds_changeRun (session : Session) (event : Event) (run : Option RunId) :
    Responds (session.changeRun run).1.activeRun event
      (.fresh session.config session.config_valid) (session.changeRun run).1.scope
      (Command.queueOf (session.changeRun run).2) :=
  responds_inRun
    { session with activeRun := run, scope := .fresh session.config session.config_valid } event
    .refresh

/-- Every event is one of the five for the scope that takes it up. -/
theorem responds_reduce (session : Session) (event : Event) (now : Nat) :
    Responds (session.reduce now event).1.activeRun event (session.scopeFor event)
      (session.reduce now event).1.scope (Command.queueOf (session.reduce now event).2) := by
  cases event with
  | activeRunChanged run => exact session.responds_changeRun _ run
  | runsLoaded runs =>
      rw [reduce, scopeFor]
      by_cases hsame : runs.minKey? = session.activeRun
      · have hstays : session.selects (.runsLoaded runs) = false := by simp [selects, hsame]
        rw [if_pos hsame, hstays]
        exact .rest _ _ _ _ rfl
      · have hselects : session.selects (.runsLoaded runs) = true := bne_iff_ne.mpr hsame
        rw [if_neg hsame, if_pos hselects]
        exact responds_changeRun { session with runs, runsLoad := session.runsLoad.finish now } _ _
  | loaded run reply =>
      by_cases hactive : session.activeRun = some run
      · obtain ⟨hscope, hstays, hqueue⟩ := reduce_loaded hactive reply now
        rw [hscope, hqueue, hstays, hactive]
        exact .reply ..
      · rw [reduce_loaded_inactive hactive]
        exact .rest _ _ _ _ rfl
  | fetchFailed run request =>
      by_cases hactive : session.activeRun = some run
      · rw [reduce_fetchFailed now hactive]
        dsimp only
        rw [hactive]
        exact .fail ..
      · have hdropped : session.onFetchFailed run request = session := if_neg hactive
        rw [reduce, hdropped]
        exact .rest _ _ _ _ rfl
  | sourceLineClicked frame => exact .click ..
  | runsRequested | runsFailed | stickyFocusSet => exact .rest _ _ _ _ rfl
  | pollStarted => exact responds_inRun { session with pollOnset := now } _ .refresh
  | refresh => exact session.responds_inRun _ .refresh
  | scrollLeft kind => exact session.responds_inRun _ (.scroll kind .left)
  | scrollRight kind => exact session.responds_inRun _ (.scroll kind .right)
  | scrollToIndex kind index => exact session.responds_inRun _ (.scroll kind (.toIndex index))
  | focusByDisplayOffset kind offset =>
      exact session.responds_inRun _ (.focusByOffset kind offset)
  | alertTypeFocusToggled alertType => exact session.responds_inRun _ (.toggleAlerts alertType)
  | graphOpFocused key => exact session.responds_inRun _ (.focusOp key)
  | graphOpInfoRequested key => exact session.responds_inRun _ (.requestOp key)
  | sourceFileRequested file => exact session.responds_inRun _ (.requestFile file)

end Session

/-! ## The shelf -/

namespace SourceShelf

variable {shelf after : SourceShelf} {run : RunId} {queue : List PendingFetch} {file : SourceFile}
  {change : FileContent → FileContent}

/-- What becomes of a shelf unless a line is put in focus.  The files that are loading
afterwards were loading before, or are asked for. -/
structure Moves (run : RunId) (queue : List PendingFetch) (before after : SourceShelf) :
    Prop where
  focusLine_eq : after.focusLine = before.focusLine
  aligned : before.Aligned → after.Aligned
  loading : ∀ file, after.IsLoading file →
    before.IsLoading file ∨ Requested queue run (.file file)

theorem moves_withListLoad (shelf : SourceShelf) (listLoad : LoadState) :
    shelf.Moves run queue { shelf with listLoad } :=
  ⟨rfl, id, fun _ => Or.inl⟩

/-- A file whose content is changed may be listed twice, so its mark may stay. -/
theorem moves_modifyContent (hmodify : shelf.modifyContent file change = .ok after)
    (hchange : (∀ content, (change content).phase ≠ .loading) ∨
      Requested queue run (.file file)) :
    shelf.Moves run queue after := by
  obtain ⟨place, hplace, _, rfl⟩ := modifyContent_eq_ok_iff.mp hmodify
  refine ⟨rfl, fun haligned => haligned.modifyContent hmodify, ?_⟩
  rintro other ⟨index, content, hfile, hcontent, hphase⟩
  dsimp only at hfile hcontent
  rw [List.getElem?_modify, Option.map_eq_map, Option.map_eq_some_iff] at hcontent
  obtain ⟨old, hold, hchanged⟩ := hcontent
  split_ifs at hchanged with hsame
  · -- the place that is changed is the first one of the file
    subst hsame
    rw [getElem?_of_index? hplace, Option.some.injEq] at hfile
    subst hfile
    exact Or.inr (hchange.resolve_left fun hidle => hidle old (hchanged ▸ hphase))
  · exact Or.inl ⟨index, old, hfile, hold, hchanged ▸ hphase⟩

theorem moves_markLoading (hrequested : Requested queue run (.file file)) :
    shelf.Moves run queue (shelf.markLoading file) := by
  cases hcontent : shelf.content? file with
  | some content =>
      exact moves_modifyContent (modifyContent_of_content? hcontent) (Or.inr hrequested)
  | none =>
      rw [markLoading_of_content?_eq_none hcontent]
      exact shelf.moves_withListLoad shelf.listLoad

theorem moves_onListLoaded (shelf : SourceShelf) (files : List SourceFile) (now : Nat) :
    shelf.Moves run queue (shelf.onListLoaded files now) :=
  ⟨rfl, fun _ => List.length_map .., fun _ hloading => Or.inl (isLoading_onListLoaded hloading)⟩

theorem moves_onFileFailed (shelf : SourceShelf) (file : SourceFile) :
    shelf.Moves run queue (shelf.onFileFailed file) := by
  rw [onFileFailed]
  split
  · exact shelf.moves_withListLoad shelf.listLoad
  · next hmodify => exact moves_modifyContent hmodify (Or.inl fun content => by simp)

end SourceShelf

namespace RunScope

variable {scope : RunScope} {run : RunId}

/-! ## Scopes with another shelf -/

/-- The scope with another shelf, but with the stage of its own list. -/
def withShelf (scope : RunScope) (shelf : SourceShelf) : RunScope :=
  { scope with sources := { shelf with listLoad := scope.sources.listLoad } }

theorem scroll_withShelf (scope : RunScope) (shelf : SourceShelf) (run : RunId)
    (kind : SequenceKind) (step : ScrollStep) :
    (scope.withShelf shelf).scroll run kind step =
      ((scope.scroll run kind step).1.withShelf shelf, (scope.scroll run kind step).2) := by
  cases kind <;> rfl

theorem focusByOffset_withShelf (scope : RunScope) (shelf : SourceShelf) (kind : SequenceKind)
    (offset : Nat) :
    (scope.withShelf shelf).focusByOffset kind offset =
      (scope.focusByOffset kind offset).withShelf shelf := by
  cases kind with
  | executions => rfl
  | graphExecutions =>
      rw [focusByOffset, focusByOffset, withShelf]
      dsimp only
      cases scope.graphExecutions.items[scope.graphExecutions.view.window.indexAt offset]? <;> rfl

theorem recenterOnAlert_withShelf (scope : RunScope) (shelf : SourceShelf) (run : RunId)
    (alertType : AlertType) :
    (scope.withShelf shelf).recenterOnAlert run alertType =
      ((scope.recenterOnAlert run alertType).1.withShelf shelf,
        (scope.recenterOnAlert run alertType).2) := by
  have hsame : (scope.withShelf shelf).alerts = scope.alerts := rfl
  rw [recenterOnAlert, recenterOnAlert, hsame]
  cases scope.alerts.firstExecutionIndex alertType with
  | none => rfl
  | some index => exact scope.scroll_withShelf shelf run .executions (.recenter index)

theorem toggleAlerts_withShelf (scope : RunScope) (shelf : SourceShelf) (run : RunId)
    (alertType : AlertType) :
    (scope.withShelf shelf).toggleAlerts run alertType =
      ((scope.toggleAlerts run alertType).1.withShelf shelf,
        (scope.toggleAlerts run alertType).2) := by
  have hrecenter := recenterOnAlert_withShelf
    { scope with alerts := scope.alerts.toggleFocus alertType } shelf run alertType
  rw [withShelf] at hrecenter
  rw [toggleAlerts, toggleAlerts, withShelf]
  dsimp only at hrecenter ⊢
  split_ifs
  · rfl
  · rw [hrecenter]
    rcases recenterOnAlert _ run alertType with ⟨moved, error | recentering⟩ <;> rfl

/-- What the user does is the same on another shelf, unless a file is asked for. -/
theorem operate_withShelf (scope : RunScope) (shelf : SourceShelf) (run : RunId)
    {operation : Operation} (hother : ∀ file, operation ≠ .requestFile file) :
    (scope.withShelf shelf).operate run operation =
      ((scope.operate run operation).1.withShelf shelf, (scope.operate run operation).2) := by
  cases operation with
  | scroll kind step => exact scope.scroll_withShelf shelf run kind step
  | focusByOffset kind offset =>
      exact Prod.ext (scope.focusByOffset_withShelf shelf kind offset) rfl
  | toggleAlerts alertType => exact scope.toggleAlerts_withShelf shelf run alertType
  | requestFile file => exact absurd rfl (hother file)
  | refresh | focusOp | requestOp => rfl

theorem focusFirst_withShelf (scope : RunScope) (shelf : SourceShelf) (total : Nat) :
    (scope.withShelf shelf).focusFirst total = (scope.focusFirst total).withShelf shelf := by
  rw [focusFirst, focusFirst, apply_ite (withShelf · shelf)]
  rfl

theorem jump_withShelf (scope : RunScope) (shelf : SourceShelf) (run : RunId)
    (target : AlertJump) :
    (scope.withShelf shelf).jump run target =
      ((scope.jump run target).1.withShelf shelf, (scope.jump run target).2) := by
  rw [jump, jump, scroll_withShelf]
  rcases scope.scroll run .executions (.recenter target.executionIndex) with
    ⟨moved, error | command⟩
  · rfl
  · cases target.graphExecutionIndex <;> rfl

theorem onAlerts_withShelf (scope : RunScope) (shelf : SourceShelf) (run : RunId)
    (alertType : AlertType) (range : Interval) (tally : AlertTally) (alerts : List Alert)
    (now : Nat) :
    (scope.withShelf shelf).onAlerts run alertType range tally alerts now =
      ((scope.onAlerts run alertType range tally alerts now).1.withShelf shelf,
        (scope.onAlerts run alertType range tally alerts now).2) := by
  rw [onAlerts, onAlerts]
  rcases AlertBoard.checkBatch range alerts with error | _
  · rfl
  · dsimp only
    cases AlertBoard.jumpOf range alerts with
    | none => rfl
    | some target =>
        exact jump_withShelf
          { scope with alerts := scope.alerts.merge alertType range tally alerts now } shelf run
          target

/-- A reply that is not about the source files is taken up in the same way on another shelf. -/
theorem onReply_withShelf (scope : RunScope) (shelf : SourceShelf) (run : RunId) (now : Nat)
    {reply : Reply} (hlist : ∀ files, reply ≠ .sourceFileList files)
    (hfile : ∀ file lines, reply ≠ .sourceFile file lines) :
    (scope.withShelf shelf).onReply run now reply =
      ((scope.onReply run now reply).1.withShelf shelf, (scope.onReply run now reply).2) := by
  cases reply with
  | numExecutions total =>
      rw [onReply, onReply, withShelf]
      dsimp only
      -- the focus on the first execution is taken without a look at the files
      rcases scope.executions.digests.onTotal run total now with ⟨digests, error | result⟩
      · rfl
      · exact Prod.ext ((scope.withDigests digests).focusFirst_withShelf shelf total) rfl
  | numAlertsAndBreakdown tally =>
      rw [onReply, onReply, withShelf]
      dsimp only
      rw [requestFocusedAlerts, requestFocusedAlerts]
      dsimp only
      split <;> rfl
  | alertsOfType alertType range tally alerts => rw [onReply, onReply, onAlerts_withShelf]
  | sourceFileList files => exact absurd rfl (hlist files)
  | sourceFile file lines => exact absurd rfl (hfile file lines)
  | numGraphExecutions | executionDigests | graphExecutions | executionData | stackFrames
  | graphOpInfo => rfl

theorem onFetchFailed_withShelf (scope : RunScope) (shelf : SourceShelf) {request : Request}
    (hother : ∀ file, request ≠ .sourceFile file) :
    (scope.withShelf shelf).onFetchFailed request =
      (scope.onFetchFailed request).withShelf shelf := by
  cases request with
  | page kind range => cases kind <;> rfl
  | sourceFile file => exact absurd rfl (hother file)
  | _ => rfl

/-! ## What becomes of the shelf -/

/-- What is the same on another shelf leaves the shelf. -/
theorem moves_withShelf {queue : List PendingFetch} {after : RunScope}
    (hsame : after = after.withShelf scope.sources) :
    scope.sources.Moves run queue after.sources := by
  rw [hsame]
  exact scope.sources.moves_withListLoad after.sources.listLoad

theorem moves_operate (scope : RunScope) (run : RunId) (operation : Operation) :
    scope.sources.Moves run (Command.queueOf (scope.operate run operation).2)
      (scope.operate run operation).1.sources := by
  cases operation with
  | requestFile file =>
      rw [operate, requestFile]
      -- the file that is asked for is the only one that is marked
      rcases scope.sources.requestFile_spec file with ⟨error, hrequest⟩ | hrequest |
        ⟨marked, hmodify, hrequest⟩ <;> rw [hrequest]
      · exact moves_withShelf rfl
      · exact moves_withShelf rfl
      · exact SourceShelf.moves_modifyContent hmodify
          (Or.inr ⟨.sourceFile file, List.mem_singleton_self _, .sourceFile file⟩)
  | _ =>
      exact moves_withShelf
        (congrArg Prod.fst (scope.operate_withShelf scope.sources run (by simp)))

theorem moves_onReply (scope : RunScope) (run : RunId) (now : Nat) (reply : Reply) :
    scope.sources.Moves run (Command.queueOf ((scope.onReply run now reply).2.map Prod.fst))
      (scope.onReply run now reply).1.sources := by
  cases reply with
  | sourceFileList files => exact scope.sources.moves_onListLoaded files now
  | sourceFile file lines =>
      rw [onReply]
      rcases hloaded : scope.sources.onFileLoaded file lines with error | sources
      · exact moves_withShelf rfl
      · exact SourceShelf.moves_modifyContent hloaded (Or.inl fun content => by simp)
  | _ =>
      exact moves_withShelf
        (congrArg Prod.fst (scope.onReply_withShelf scope.sources run now (by simp) (by simp)))

theorem moves_onFetchFailed (scope : RunScope) (run : RunId) (request : Request) :
    scope.sources.Moves run [] (scope.onFetchFailed request).sources := by
  cases request with
  | sourceFile file => exact scope.sources.moves_onFileFailed file
  | _ => exact moves_withShelf (scope.onFetchFailed_withShelf scope.sources (by simp))

/-- Settling asks for the file of the line that is in focus once the trace was followed. -/
theorem moves_settle (scope : RunScope) (run : RunId) (sticky : Bool) :
    (scope.followed sticky).sources.Moves run (scope.settle run sticky).2.queue
      (scope.settle run sticky).1.sources := by
  rw [settle_eq_grant]
  dsimp only
  rw [Wants.queue_command, grant]
  dsimp only
  -- a file is marked only when its content is wanted, and then it is asked for
  cases scope.wants.file with
  | none => exact (scope.followed sticky).sources.moves_withListLoad _
  | some file =>
      refine SourceShelf.moves_markLoading ⟨.sourceFile file, ?_, .sourceFile file⟩
      simp

end RunScope

end TraceViewer
