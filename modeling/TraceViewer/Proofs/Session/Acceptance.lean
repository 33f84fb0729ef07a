import TraceViewer.Proofs.Session.OriginRecord

/-!
# What a recording replies is accepted

A session refuses a total that shrinks, a batch that does not fill its range or passes its
total, an op without a graph around it, a file that is not listed, and alerts that do not
fill their range.  A recording that only grows gives no cause for any of this
(`RunScope.onReply_accepted`), as long as the request is still *answerable*.

* Totals and pages: what was seen is never more than what is recorded
  (`RunScope.Sound`), and a page is cut off where the recording ends.
* Ops: they are recorded under their own graph (`Recording.Keyed`).
* Files: the file has to be listed still.  It was when the session asked for it.
* Alerts: their range may not be reversed.  The session asks from the first one on, and
  the recording answers with all of them or not at all.

What a scope asks for is answerable, and every way in which it asks has its lemma
(`answerable_operate`, `answerable_onReply`, `answerable_settle`).
-/

namespace TraceViewer

/-! ## Requests that stay answerable -/

/-- A request to which a full reply is accepted while certain files are listed. -/
def Request.Answerable (files : List SourceFile) : Request → Prop
  | .sourceFile file => file ∈ files
  | .alertsOfType _ range => range.start ≤ range.stop
  | .numExecutions | .numGraphExecutions | .page _ _ | .executionData _ | .stackFrames _
  | .graphOpInfo _ | .sourceFileList | .numAlertsAndBreakdown => True

/-- Whether all requests of a queue are answerable, whatever their run. -/
def Answerable (files : List SourceFile) (queue : List PendingFetch) : Prop :=
  ∀ run request, .data run request ∈ queue → request.Answerable files

section Queues

variable {files more : List SourceFile} {queue rest first second : List PendingFetch}

theorem answerable_nil : Answerable files [] := by
  rintro run request ⟨⟩

theorem answerable_fetch (run : RunId) {request : Request}
    (hrequest : request.Answerable files) : Answerable files [.data run request] := by
  intro other asked hmem
  rw [List.mem_singleton, PendingFetch.data.injEq] at hmem
  exact hmem.2 ▸ hrequest

theorem Answerable.append (hfirst : Answerable files first) (hsecond : Answerable files second) :
    Answerable files (first ++ second) := by
  intro run request hmem
  exact (List.mem_append.mp hmem).elim (hfirst run request) (hsecond run request)

theorem Answerable.of_subset (hqueue : Answerable files queue) (hsub : rest ⊆ queue) :
    Answerable files rest :=
  fun run request hmem => hqueue run request (hsub hmem)

/-- Listing more files. -/
theorem Answerable.mono (hqueue : Answerable files queue) (hfiles : files ⊆ more) :
    Answerable more queue := by
  intro run request hmem
  have hrequest := hqueue run request hmem
  cases request with
  | sourceFile file => exact hfiles hrequest
  | alertsOfType alertType range => exact hrequest
  | _ => trivial

theorem Timeline.OnlyPages.answerable {kind : SequenceKind}
    (honly : Timeline.OnlyPages kind queue) : Answerable files queue := by
  intro run request hmem
  obtain ⟨asked, range, heq⟩ := honly _ hmem
  cases heq
  trivial

end Queues

/-! ## Timelines -/

namespace Timeline

variable {α : Type} {timeline after : Timeline α} {limit : Nat} {run : RunId} {error : ViewError}

theorem onlyPages_scroll (hsound : timeline.Sound limit) (run : RunId) (step : ScrollStep) :
    OnlyPages timeline.kind (Command.queueOf (timeline.scroll run step).2) := by
  rcases scroll_spec hsound run step with ⟨error, hscroll⟩ | hscroll |
    ⟨view, demand, hresolved, _, hscroll⟩ <;> rw [hscroll]
  · exact onlyPages_nil _
  · exact onlyPages_nil _
  · exact onlyPages_asking hresolved.1 run

theorem onlyPages_onTotal (hsound : timeline.Sound limit) (run : RunId) (total now : Nat) :
    OnlyPages timeline.kind
      (Command.queueOf ((timeline.onTotal run total now).2.map Prod.fst)) := by
  by_cases hlt : total < timeline.numItems
  · obtain ⟨error, htotal⟩ := onTotal_of_lt hlt run now
    rw [htotal]
    exact onlyPages_nil _
  · obtain ⟨view, demand, hresolved, _, _, htotal⟩ :=
      onTotal_of_le hsound (Nat.le_of_not_lt hlt) run now
    rw [htotal]
    let finished := { timeline with totalLoad := timeline.totalLoad.finish now }
    have hasks : finished.view.Asks view demand := hresolved.1
    exact onlyPages_asking hasks run

theorem onlyPages_onPage (hsound : timeline.Sound limit) {batch : Batch α}
    (hlimit : batch.total ≤ limit) (run : RunId) (now : Nat) :
    OnlyPages timeline.kind
      (Command.queueOf ((timeline.onPage run batch now).2.map Prod.fst)) := by
  by_cases haccepts : timeline.view.sequence.Accepts batch
  · by_cases hlt : timeline.numItems < batch.total
    · obtain ⟨view, demand, hresolved, _, _, hpage⟩ :=
        onPage_of_accepts_lt hsound haccepts hlt hlimit run now
      have hkind : (timeline.merged batch now).kind = timeline.kind := by
        rw [merged_eq]
      rw [hpage, ← hkind]
      exact onlyPages_asking hresolved.1 run
    · rw [onPage_of_accepts_le haccepts (Nat.le_of_not_lt hlt)]
      exact onlyPages_nil _
  · obtain ⟨error, hpage⟩ := onPage_of_not_accepts haccepts run now
    rw [hpage]
    exact onlyPages_nil _

/-- A total that does not shrink is not refused. -/
theorem onTotal_accepted (hsound : timeline.Sound limit) {total : Nat}
    (hle : timeline.numItems ≤ total) (now : Nat) :
    timeline.onTotal run total now ≠ (after, .error error) := by
  obtain ⟨view, demand, _, _, _, htotal⟩ := onTotal_of_le hsound hle run now
  rw [htotal]
  simp

/-- A batch that the sequence accepts is not refused by the view either. -/
theorem onPage_accepted (hsound : timeline.Sound limit) {batch : Batch α}
    (haccepts : timeline.view.sequence.Accepts batch) (hlimit : batch.total ≤ limit) (now : Nat) :
    timeline.onPage run batch now ≠ (after, .error error) := by
  by_cases hlt : timeline.numItems < batch.total
  · obtain ⟨view, demand, _, _, _, hpage⟩ :=
      onPage_of_accepts_lt hsound haccepts hlt hlimit run now
    rw [hpage]
    simp
  · rw [onPage_of_accepts_le haccepts (Nat.le_of_not_lt hlt)]
    simp

/-- A scroll is refused exactly when it goes to a place past the last full window. -/
theorem scroll_error_iff (hfits : timeline.view.Fits) {step : ScrollStep} :
    (timeline.scroll run step).2 = .error error ↔
      ∃ index, step = .toIndex index ∧
        timeline.view.window.maxScrollBegin timeline.numItems < index ∧
        error = .outOfRange index (timeline.view.window.maxScrollBegin timeline.numItems) := by
  constructor
  · intro hrefused
    rcases PagedView.moveView_cases hfits step with ⟨index, rfl, hpast, hmoved⟩ |
      ⟨_, view, demand, hmoved, _⟩ <;> rw [scroll, hmoved] at hrefused <;> cases hrefused
    exact ⟨index, rfl, hpast, rfl⟩
  · rintro ⟨index, rfl, hpast, rfl⟩
    rw [numItems] at hpast
    rw [scroll, moveView, PagedView.scrollTo, ScrollWindow.scrollTo, if_pos hpast]
    rfl

end Timeline

/-! ## Source files -/

namespace SourceShelf

variable {shelf : SourceShelf} {file : SourceFile}

/-- A file whose content is known, or can be changed, is listed. -/
theorem mem_files_of_modifyContent {marked : SourceShelf} {change : FileContent → FileContent}
    (hmodify : shelf.modifyContent file change = .ok marked) : file ∈ shelf.files := by
  obtain ⟨index, hindex, _⟩ := modifyContent_eq_ok_iff.mp hmodify
  rw [← isSome_index?, hindex, Option.isSome_some]

/-- The lines of a listed file are not refused. -/
theorem onFileLoaded_accepted (haligned : shelf.Aligned) (hlisted : file ∈ shelf.files)
    (lines : List String) {error : ViewError} : shelf.onFileLoaded file lines ≠ .error error := by
  intro hrefused
  obtain ⟨content, hcontent⟩ := haligned.exists_content? hlisted
  rw [(modifyContent_eq_error_iff.mp hrefused).1] at hcontent
  cases hcontent

/-- A file is refused exactly when it has no place for its content. -/
theorem requestFile_error_iff {error : ViewError} :
    shelf.requestFile file = .error error ↔
      shelf.content? file = none ∧ error = .unknownSourceFile file := by
  rw [requestFile]
  cases hcontent : shelf.content? file with
  | none => simp [eq_comm]
  | some content =>
      simp only [reduceCtorEq, false_and, iff_false]
      intro hrefused
      have hasked : shelf.modifyContent file (fun content => { content with phase := .loading }) =
          .error error := by
        rcases hmodify : shelf.modifyContent file fun content =>
          { content with phase := .loading } with refusal | marked <;> rw [hmodify] at hrefused
        · split at hrefused <;> cases hrefused <;> rfl
        · split at hrefused <;> cases hrefused
      -- a file that has a content is not refused it
      rw [(modifyContent_eq_error_iff.mp hasked).1] at hcontent
      cases hcontent

end SourceShelf

/-! ## What a scope asks for -/

namespace RunScope

variable {limit : SequenceKind → Nat} {scope after : RunScope} {run : RunId}
  {files : List SourceFile} {error : ViewError}

theorem answerable_scroll (hsound : scope.Sound limit) (run : RunId) (kind : SequenceKind)
    (step : ScrollStep) : Answerable files (Command.queueOf (scope.scroll run kind step).2) := by
  cases kind with
  | executions => exact (Timeline.onlyPages_scroll hsound.digests run step).answerable
  | graphExecutions => exact (Timeline.onlyPages_scroll hsound.graphExecutions run step).answerable

/-- Alerts are asked for from the first one on. -/
theorem answerable_requestAlerts (scope : RunScope) (run : RunId) (alertType : AlertType) :
    Answerable files (scope.requestAlerts run alertType).2.queue := by
  rw [requestAlerts, AlertBoard.requestType]
  split_ifs
  · exact answerable_nil
  · exact answerable_fetch run (Nat.zero_le _)

theorem answerable_requestOp (scope : RunScope) (run : RunId) (key : GraphOpKey) :
    Answerable files (scope.requestOp run key).2.queue := by
  rw [requestOp]
  rcases scope.ops.request key with ⟨ops, _ | _⟩
  · exact answerable_nil
  · exact answerable_fetch run True.intro

/-- A file is asked for when it is listed. -/
theorem answerable_requestFile (scope : RunScope) (run : RunId) (file : SourceFile) :
    Answerable scope.sources.files (Command.queueOf (scope.requestFile run file).2) := by
  rcases SourceShelf.requestFile_spec scope.sources file with ⟨error, hrequest⟩ | hrequest |
    ⟨marked, hmodify, hrequest⟩ <;> rw [requestFile, hrequest]
  · exact answerable_nil
  · exact answerable_nil
  · exact answerable_fetch run (SourceShelf.mem_files_of_modifyContent hmodify)

theorem answerable_requestTotal {α : Type} (timeline : Timeline α) (run : RunId) :
    Answerable files (timeline.requestTotal run).2.queue := by
  refine answerable_fetch run ?_
  cases timeline.kind <;> exact True.intro

theorem answerable_refresh (scope : RunScope) (run : RunId) :
    Answerable files (scope.refresh run).2.queue := by
  have htally : Answerable files [.data run .numAlertsAndBreakdown] :=
    answerable_fetch run True.intro
  have hlist : Answerable files [.data run .sourceFileList] := answerable_fetch run True.intro
  rw [refresh, Command.queue_combine]
  exact (answerable_requestTotal _ run).append
    ((answerable_requestTotal _ run).append (htally.append hlist))

theorem answerable_toggleAlerts (hsound : scope.Sound limit) (run : RunId)
    (alertType : AlertType) :
    Answerable files (Command.queueOf (scope.toggleAlerts run alertType).2) := by
  refine toggleAlerts_induct (motive := fun _ queue => Answerable files queue) alertType
    answerable_nil ?_ ?_
  · intro index
    exact answerable_scroll (hsound.withAlerts _) run .executions _
  · intro moved queue hmoved
    exact hmoved.append (moved.answerable_requestAlerts run alertType)

theorem answerable_operate (hsound : scope.Sound limit) (run : RunId) (operation : Operation) :
    Answerable scope.sources.files (Command.queueOf (scope.operate run operation).2) := by
  cases operation with
  | refresh => exact scope.answerable_refresh run
  | scroll kind step => exact answerable_scroll hsound run kind step
  | focusByOffset | focusOp => exact answerable_nil
  | toggleAlerts alertType => exact answerable_toggleAlerts hsound run alertType
  | requestOp key => exact scope.answerable_requestOp run key
  | requestFile file => exact scope.answerable_requestFile run file

/-- Settling asks for the file of the focused line only when it is listed. -/
theorem answerable_settle (scope : RunScope) (run : RunId) (sticky : Bool) :
    Answerable scope.sources.files (scope.settle run sticky).2.queue := by
  have horigin : Answerable scope.sources.files (scope.requestOrigin run).2.queue := by
    rw [requestOrigin]
    split
    · exact answerable_nil
    · dsimp only
      rw [ExecutionTimeline.requestRecord]
      split_ifs
      · exact answerable_nil
      · exact answerable_fetch run True.intro
    · exact scope.answerable_requestOp run _
  have hframes : ∀ other : RunScope,
      Answerable scope.sources.files (other.requestMissingFrames run).2.queue := by
    intro other
    rw [requestMissingFrames]
    split
    · exact answerable_nil
    · exact answerable_fetch run True.intro
  -- a file that is not listed is refused, and nothing is asked for then
  have hfile : ∀ other : RunScope, other.sources.files = scope.sources.files →
      Answerable scope.sources.files (other.requestFocusedFile run).2.queue := by
    intro other hsame
    rw [requestFocusedFile]
    split
    · exact answerable_nil
    · next line _ =>
        have hrequested := other.answerable_requestFile run line.file
        rw [hsame] at hrequested
        split
        · exact answerable_nil
        · next hrequest =>
            rw [hrequest] at hrequested
            exact hrequested
  -- none of the steps before has changed the list
  have hframed := ((scope.quiet_requestOrigin run).trans
    ((scope.requestOrigin run).1.quiet_requestMissingFrames run)).data.files_eq
  rw [settle, Command.queue_combine]
  simp only [List.flatMap_cons, List.flatMap_nil, List.append_nil]
  refine horigin.append ((hframes _).append (hfile _ ?_))
  split_ifs
  · exact (quiet_followLastFrame _).data.files_eq.trans hframed
  · exact hframed

/-! ## Replies -/

/-- Only a list of files changes which files are listed. -/
theorem files_onReply (scope : RunScope) (run : RunId) (now : Nat) {reply : Reply}
    (hreply : ∀ files, reply ≠ .sourceFileList files) :
    (scope.onReply run now reply).1.sources.files = scope.sources.files := by
  cases reply with
  | numExecutions total =>
      refine numExecutions_induct (motive := fun after _ =>
        after.sources.files = scope.sources.files) now total rfl ?_
      intro before _ htaken
      exact (before.quiet_focusFirst total).data.files_eq.trans htaken
  | sourceFileList files => exact absurd rfl (hreply files)
  | sourceFile file lines =>
      rw [onReply]
      rcases hloaded : scope.sources.onFileLoaded file lines with error | sources
      · rfl
      · exact (SourceShelf.files_modifyContent hloaded).1
  | numAlertsAndBreakdown tally => exact (scope.quiet_tally run now tally).data.files_eq
  | alertsOfType alertType range tally alerts =>
      refine alertsOfType_induct (motive := fun after _ =>
        after.sources.files = scope.sources.files)
        now alertType range tally alerts rfl rfl ?_ fun _ _ _ hmoved => hmoved
      intro index
      rfl
  | _ => rfl

theorem answerable_onReply (hsound : scope.Sound limit) {reply : Reply}
    (hreply : reply.Sound limit) (run : RunId) (now : Nat) :
    Answerable files (Command.queueOf ((scope.onReply run now reply).2.map Prod.fst)) := by
  cases reply with
  | numExecutions total =>
      refine numExecutions_induct (motive := fun _ queue => Answerable files queue) now total ?_
        fun _ _ htaken => htaken
      exact (Timeline.onlyPages_onTotal hsound.digests run total now).answerable
  | numGraphExecutions total =>
      exact (Timeline.onlyPages_onTotal hsound.graphExecutions run total now).answerable
  | executionDigests batch =>
      exact (Timeline.onlyPages_onPage hsound.digests hreply run now).answerable
  | graphExecutions batch =>
      exact (Timeline.onlyPages_onPage hsound.graphExecutions hreply run now).answerable
  | executionData range records =>
      rw [onReply]
      rcases scope.executions.onRecords range records with ⟨executions, error | _⟩ <;>
        exact answerable_nil
  | stackFrames | sourceFileList => exact answerable_nil
  | graphOpInfo op =>
      rw [onReply]
      rcases scope.ops.onLoaded op with ⟨ops, error | _⟩ <;> exact answerable_nil
  | sourceFile file lines =>
      rw [onReply]
      rcases scope.sources.onFileLoaded file lines with error | sources <;> exact answerable_nil
  | numAlertsAndBreakdown tally =>
      change Answerable files (requestFocusedAlerts _ run).2.queue
      rw [requestFocusedAlerts]
      split
      · exact answerable_nil
      · exact answerable_requestAlerts _ run _
  | alertsOfType alertType range tally alerts =>
      refine alertsOfType_induct (motive := fun _ queue => Answerable files queue)
        now alertType range tally alerts answerable_nil answerable_nil ?_ fun _ _ _ hmoved => hmoved
      intro index
      exact answerable_scroll (hsound.withAlerts _) run .executions _

/-- An alert batch that fills its range is not refused, wherever it leads. -/
theorem onAlerts_accepted (hvalid : ∀ kind, (scope.geometry kind).Valid) {range : Interval}
    {alerts : List Alert} (hle : range.start ≤ range.stop) (hlength : alerts.length = range.length)
    (alertType : AlertType) (tally : AlertTally) (now : Nat) :
    scope.onAlerts run alertType range tally alerts now ≠ (after, .error error) := by
  have hfits : ¬ (range.stop < range.start ∨ alerts.length ≠ range.length) :=
    not_or.mpr ⟨Nat.not_lt_of_le hle, not_not.mpr hlength⟩
  rw [onAlerts, AlertBoard.checkBatch, if_neg hfits]
  dsimp only
  cases AlertBoard.jumpOf range alerts with
  | none => simp
  | some target =>
      let merged := { scope with alerts := scope.alerts.merge alertType range tally alerts now }
      have hmerged : ∀ kind, (merged.geometry kind).Valid := hvalid
      dsimp only
      rw [jump]
      rcases hscroll : merged.scroll run .executions (.recenter target.executionIndex) with
        ⟨moved, error | command⟩
      · -- recentering is possible in every window
        exact absurd hscroll (recenter_accepted hmerged target.executionIndex)
      · cases target.graphExecutionIndex <;> simp

/-- What a recording replies to a request that is proper and answerable is accepted. -/
theorem onReply_accepted {recording : Recording} (hkeyed : recording.Keyed)
    (hsound : scope.Sound recording.total) (hvalid : ∀ kind, (scope.geometry kind).Valid)
    {request : Request} (hproper : request.Proper scope.geometry recording.total)
    (hanswerable : request.Answerable scope.sources.files) {reply : Reply}
    (hreplies : recording.Replies request reply) (now : Nat) :
    scope.onReply run now reply ≠ (after, .error error) := by
  intro hrefused
  cases hreplies with
  | numExecutions =>
      rw [onReply] at hrefused
      rcases htotal : scope.executions.digests.onTotal run recording.executions.length now with
        ⟨digests, error | result⟩ <;> rw [htotal] at hrefused <;> cases hrefused
      exact Timeline.onTotal_accepted hsound.digests hsound.digests.numItems_le now htotal
  | numGraphExecutions =>
      rw [onReply] at hrefused
      rcases htotal : scope.graphExecutions.onTotal run recording.graphExecutions.length now with
        ⟨graph, error | result⟩ <;> rw [htotal] at hrefused <;> cases hrefused
      exact Timeline.onTotal_accepted hsound.graphExecutions hsound.graphExecutions.numItems_le now
        htotal
  | executionDigests range =>
      obtain ⟨_, hlt, hstop⟩ := hproper
      obtain ⟨_, haccepts⟩ := scope.executions.digests.accepts_pageOf Execution.digest hlt hstop
        hsound.digests.numItems_le
      rw [onReply] at hrefused
      rcases hpage : scope.executions.digests.onPage run _ now with
        ⟨digests, error | result⟩ <;> rw [hpage] at hrefused <;> cases hrefused
      exact Timeline.onPage_accepted hsound.digests haccepts (Nat.le_refl _) now hpage
  | graphExecutions range =>
      obtain ⟨_, hlt, hstop⟩ := hproper
      obtain ⟨_, haccepts⟩ := scope.graphExecutions.accepts_pageOf id hlt hstop
        hsound.graphExecutions.numItems_le
      rw [onReply] at hrefused
      rcases hpage : scope.graphExecutions.onPage run _ now with
        ⟨graph, error | result⟩ <;> rw [hpage] at hrefused <;> cases hrefused
      exact Timeline.onPage_accepted hsound.graphExecutions haccepts (Nat.le_refl _) now hpage
  | executionData hrecords => exact records_accepted hrecords hrefused
  | stackFrames | sourceFileList | numAlertsAndBreakdown => cases hrefused
  | @graphOpInfo key op hop =>
      obtain ⟨hgraph, _, _⟩ := hkeyed hop
      have hembedded : (op.embed fun name =>
          (recording.op? { key with opName := name }).map GraphOp.stripped).graphId? =
            some key.graphId := hgraph
      rw [onReply, OpStore.onLoaded, hembedded] at hrefused
      cases hrefused
  | sourceFile hlines =>
      rw [onReply] at hrefused
      split at hrefused
      · next hloaded => exact SourceShelf.onFileLoaded_accepted hsound.sources.aligned hanswerable _ hloaded
      · cases hrefused
  | @alertsOfType alertType range alerts halerts =>
      -- the archive has all the alerts of the range, or it fails
      have hlength : alerts.length = range.length := by
        rw [Archive.alertsIn] at halerts
        split_ifs at halerts with hmissing
        cases halerts
        exact not_not.mp hmissing
      rw [onReply] at hrefused
      rcases htaken : scope.onAlerts run alertType range recording.tally alerts now with
        ⟨taken, error | command⟩ <;> rw [htaken] at hrefused <;> cases hrefused
      exact onAlerts_accepted hvalid hanswerable hlength alertType _ now htaken

end RunScope

end TraceViewer
