import TraceViewer.Proofs.Session.ScopeMarks

/-!
# What a scope holds

Only replies bring data.  Every operation of the user, settling, and every failure
leave what the scope of a run holds as it is (`RunScope.Keeps`): they move windows, set
marks and change stages of loading, and nothing else.

Most of them are *quiet* (`RunScope.Quiet`): they do not even touch the two sequences and
their windows, and they ask for no page.  Those that do are the movements of a window and
the highlighting of alerts.
-/

namespace TraceViewer

/-! ## Queues without pages -/

/-- Whether a queue holds no fetch for a page. -/
def Pageless (queue : List PendingFetch) : Prop :=
  ∀ (run : RunId) (kind : SequenceKind) (range : Interval), .data run (.page kind range) ∉ queue

theorem pageless_nil : Pageless [] := fun _ _ _ => List.not_mem_nil

theorem pageless_fetch (run : RunId) {request : Request}
    (hrequest : ∀ kind range, request ≠ .page kind range) : Pageless [.data run request] := by
  intro other kind range hmem
  rw [List.mem_singleton, PendingFetch.data.injEq] at hmem
  exact hrequest kind range hmem.2.symm

theorem Pageless.append {first second : List PendingFetch} (hfirst : Pageless first)
    (hsecond : Pageless second) : Pageless (first ++ second) := by
  intro run kind range hmem
  exact (List.mem_append.mp hmem).elim (hfirst run kind range) (hsecond run kind range)

/-! ## Timelines -/

namespace Timeline

variable {α : Type} {timeline : Timeline α} {limit : Nat}

/-- A timeline holds the same items of the same sequence. -/
structure Keeps (before after : Timeline α) : Prop where
  items_eq : after.items = before.items
  numItems_eq : after.numItems = before.numItems

theorem keeps_self (timeline : Timeline α) : timeline.Keeps timeline := ⟨rfl, rfl⟩

theorem Still.keeps {before after : Timeline α} (hstill : before.Still after) :
    before.Keeps after :=
  ⟨congrArg PagedSequence.items hstill.sequence_eq,
    congrArg PagedSequence.numItems hstill.sequence_eq⟩

theorem keeps_scroll (hsound : timeline.Sound limit) (run : RunId) (step : ScrollStep) :
    timeline.Keeps (timeline.scroll run step).1 := by
  rcases scroll_spec hsound run step with ⟨error, hscroll⟩ | hscroll |
    ⟨view, demand, hresolved, htotal, hscroll⟩
  · rw [hscroll]
    exact timeline.keeps_self
  · rw [hscroll]
    exact timeline.keeps_self
  · rw [hscroll]
    exact ⟨items_asking hresolved.1 run, (numItems_asking ..).trans htotal⟩

end Timeline

/-! ## Scopes -/

namespace RunScope

/-- A scope holds the same data beside its two sequences. -/
structure SameData (before after : RunScope) : Prop where
  records_eq : after.executions.records = before.executions.records
  frames_eq : after.frames = before.frames
  graphs_eq : after.ops.graphs = before.ops.graphs
  files_eq : after.sources.files = before.sources.files
  lines_eq : after.sources.contents.map FileContent.lines =
    before.sources.contents.map FileContent.lines
  shelves_eq : after.alerts.shelves = before.alerts.shelves

/-- A scope holds the same data. -/
structure Keeps (before after : RunScope) : Prop extends SameData before after where
  digests : before.executions.digests.Keeps after.executions.digests
  graphExecutions : before.graphExecutions.Keeps after.graphExecutions

/-- An operation leaves the sequences and their windows alone, and asks for no page. -/
structure Calm (before after : RunScope) (queue : List PendingFetch) : Prop where
  digests : before.executions.digests.Still after.executions.digests
  graphExecutions : before.graphExecutions.Still after.graphExecutions
  pageless : Pageless queue

/-- A calm operation that brings no data. -/
structure Quiet (before after : RunScope) (queue : List PendingFetch) : Prop where
  calm : before.Calm after queue
  data : before.SameData after

variable {limit : SequenceKind → Nat} {scope before middle after : RunScope}
  {queue more : List PendingFetch}

theorem sameData_self (scope : RunScope) : scope.SameData scope :=
  ⟨rfl, rfl, rfl, rfl, rfl, rfl⟩

theorem SameData.trans (hfirst : before.SameData middle) (hsecond : middle.SameData after) :
    before.SameData after where
  records_eq := hsecond.records_eq.trans hfirst.records_eq
  frames_eq := hsecond.frames_eq.trans hfirst.frames_eq
  graphs_eq := hsecond.graphs_eq.trans hfirst.graphs_eq
  files_eq := hsecond.files_eq.trans hfirst.files_eq
  lines_eq := hsecond.lines_eq.trans hfirst.lines_eq
  shelves_eq := hsecond.shelves_eq.trans hfirst.shelves_eq

theorem Keeps.trans (hfirst : before.Keeps middle) (hsecond : middle.Keeps after) :
    before.Keeps after where
  toSameData := hfirst.toSameData.trans hsecond.toSameData
  digests :=
    ⟨hsecond.digests.items_eq.trans hfirst.digests.items_eq,
      hsecond.digests.numItems_eq.trans hfirst.digests.numItems_eq⟩
  graphExecutions :=
    ⟨hsecond.graphExecutions.items_eq.trans hfirst.graphExecutions.items_eq,
      hsecond.graphExecutions.numItems_eq.trans hfirst.graphExecutions.numItems_eq⟩

/-- A change that does not touch the timelines. -/
theorem calm_of_eq (hdigests : after.executions.digests = before.executions.digests)
    (hgraph : after.graphExecutions = before.graphExecutions) (hqueue : Pageless queue) :
    before.Calm after queue where
  digests := hdigests ▸ before.executions.digests.still_self
  graphExecutions := hgraph ▸ before.graphExecutions.still_self
  pageless := hqueue

theorem calm_self (scope : RunScope) : scope.Calm scope [] := calm_of_eq rfl rfl pageless_nil

theorem Calm.trans (hfirst : before.Calm middle queue) (hsecond : middle.Calm after more) :
    before.Calm after (queue ++ more) where
  digests := hfirst.digests.trans hsecond.digests
  graphExecutions := hfirst.graphExecutions.trans hsecond.graphExecutions
  pageless := hfirst.pageless.append hsecond.pageless

theorem quiet_self (scope : RunScope) : scope.Quiet scope [] :=
  ⟨scope.calm_self, scope.sameData_self⟩

theorem Quiet.trans (hfirst : before.Quiet middle queue) (hsecond : middle.Quiet after more) :
    before.Quiet after (queue ++ more) :=
  ⟨hfirst.calm.trans hsecond.calm, hfirst.data.trans hsecond.data⟩

theorem Quiet.keeps (hquiet : before.Quiet after queue) : before.Keeps after where
  toSameData := hquiet.data
  digests := hquiet.calm.digests.keeps
  graphExecutions := hquiet.calm.graphExecutions.keeps

/-! ### One component at a time -/

/-- A change of the digests that keeps their items. -/
theorem keeps_withDigests {digests : Timeline ExecutionDigest}
    (hdigests : scope.executions.digests.Keeps digests) :
    scope.Keeps (scope.withDigests digests) :=
  ⟨⟨rfl, rfl, rfl, rfl, rfl, rfl⟩, hdigests, Timeline.keeps_self _⟩

/-- A change of the executions inside graphs that keeps their items. -/
theorem keeps_withGraphExecutions {graphExecutions : Timeline GraphExecution}
    (hgraph : scope.graphExecutions.Keeps graphExecutions) :
    scope.Keeps { scope with graphExecutions } :=
  ⟨⟨rfl, rfl, rfl, rfl, rfl, rfl⟩, Timeline.keeps_self _, hgraph⟩

/-- A change of the alert board that keeps the shelves. -/
theorem quiet_withAlerts {alerts : AlertBoard} (hshelves : alerts.shelves = scope.alerts.shelves)
    (hqueue : Pageless queue) : scope.Quiet { scope with alerts } queue :=
  ⟨calm_of_eq rfl rfl hqueue, ⟨rfl, rfl, rfl, rfl, rfl, hshelves⟩⟩

/-- A change of the op store that keeps the ops. -/
theorem quiet_withOps {ops : OpStore} (hgraphs : ops.graphs = scope.ops.graphs)
    (hqueue : Pageless queue) : scope.Quiet { scope with ops } queue :=
  ⟨calm_of_eq rfl rfl hqueue, ⟨rfl, rfl, hgraphs, rfl, rfl, rfl⟩⟩

/-- A change of the source shelf that keeps the files and their lines. -/
theorem quiet_withSources {sources : SourceShelf} (hfiles : sources.files = scope.sources.files)
    (hlines : sources.contents.map FileContent.lines =
      scope.sources.contents.map FileContent.lines) (hqueue : Pageless queue) :
    scope.Quiet { scope with sources } queue :=
  ⟨calm_of_eq rfl rfl hqueue, ⟨rfl, rfl, rfl, hfiles, hlines, rfl⟩⟩

/-! ## Operations of the user -/

theorem keeps_scroll (hsound : scope.Sound limit) (run : RunId) (kind : SequenceKind)
    (step : ScrollStep) : scope.Keeps (scope.scroll run kind step).1 := by
  cases kind with
  | executions => exact keeps_withDigests (Timeline.keeps_scroll hsound.digests run step)
  | graphExecutions =>
      exact keeps_withGraphExecutions (Timeline.keeps_scroll hsound.graphExecutions run step)

theorem quiet_refresh (scope : RunScope) (run : RunId) :
    scope.Quiet (scope.refresh run).1 (scope.refresh run).2.queue := by
  refine ⟨⟨⟨rfl, rfl, rfl⟩, ⟨rfl, rfl, rfl⟩, ?_⟩, ⟨rfl, rfl, rfl, rfl, rfl, rfl⟩⟩
  have htotal : ∀ kind : SequenceKind, Pageless [.data run (Timeline.totalRequest kind)] := by
    intro kind
    cases kind <;> exact pageless_fetch run (by rintro kind range ⟨⟩)
  have htally : Pageless [.data run .numAlertsAndBreakdown] :=
    pageless_fetch run (by rintro kind range ⟨⟩)
  have hfiles : Pageless [.data run .sourceFileList] :=
    pageless_fetch run (by rintro kind range ⟨⟩)
  -- totals, the tally and the list are asked for, but no page
  have hqueue : (scope.refresh run).2.queue =
      [.data run (Timeline.totalRequest scope.executions.digests.kind)] ++
        ([.data run (Timeline.totalRequest scope.graphExecutions.kind)] ++
          ([.data run .numAlertsAndBreakdown] ++ [.data run .sourceFileList])) := by
    rw [refresh, Command.queue_combine]
    rfl
  rw [hqueue]
  exact (htotal _).append ((htotal _).append (htally.append hfiles))

theorem quiet_focusOp (scope : RunScope) (key : GraphOpKey) :
    scope.Quiet (scope.focusOp key) [] :=
  ⟨calm_of_eq rfl rfl pageless_nil, ⟨rfl, rfl, rfl, rfl, rfl, rfl⟩⟩

theorem quiet_setFocusLine (scope : RunScope) (line : StackFrame) :
    scope.Quiet (scope.setFocusLine line) [] :=
  quiet_withSources rfl rfl pageless_nil

theorem quiet_focusByOffset (scope : RunScope) (kind : SequenceKind) (offset : Nat) :
    scope.Quiet (scope.focusByOffset kind offset) [] := by
  cases kind with
  | executions =>
      exact ⟨⟨⟨rfl, rfl, rfl⟩, ⟨rfl, rfl, rfl⟩, pageless_nil⟩, ⟨rfl, rfl, rfl, rfl, rfl, rfl⟩⟩
  | graphExecutions =>
      rw [focusByOffset]
      cases scope.graphExecutions.items[scope.graphExecutions.view.window.indexAt offset]? <;>
        exact ⟨⟨⟨rfl, rfl, rfl⟩, ⟨rfl, rfl, rfl⟩, pageless_nil⟩,
          ⟨rfl, rfl, rfl, rfl, rfl, rfl⟩⟩

theorem quiet_requestOp (scope : RunScope) (run : RunId) (key : GraphOpKey) :
    scope.Quiet (scope.requestOp run key).1 (scope.requestOp run key).2.queue := by
  have hgraphs : (scope.ops.request key).1.graphs = scope.ops.graphs := by
    rw [OpStore.request]
    split_ifs <;> rfl
  refine quiet_withOps hgraphs ?_
  rw [requestOp]
  rcases scope.ops.request key with ⟨ops, wanted⟩
  cases wanted with
  | false => exact pageless_nil
  | true => exact pageless_fetch run (by rintro kind range ⟨⟩)

theorem quiet_requestAlerts (scope : RunScope) (run : RunId) (alertType : AlertType) :
    scope.Quiet (scope.requestAlerts run alertType).1
      (scope.requestAlerts run alertType).2.queue := by
  have hshelves : (scope.alerts.requestType alertType).1.shelves = scope.alerts.shelves := by
    rw [AlertBoard.requestType]
    split_ifs <;> rfl
  refine quiet_withAlerts hshelves ?_
  rw [requestAlerts]
  rcases scope.alerts.requestType alertType with ⟨alerts, wanted⟩
  cases wanted with
  | none => exact pageless_nil
  | some range => exact pageless_fetch run (by rintro kind range ⟨⟩)

theorem quiet_requestFocusedAlerts (scope : RunScope) (run : RunId) :
    scope.Quiet (scope.requestFocusedAlerts run).1 (scope.requestFocusedAlerts run).2.queue := by
  rw [requestFocusedAlerts]
  cases scope.alerts.focusType with
  | none => exact scope.quiet_self
  | some alertType => exact scope.quiet_requestAlerts run alertType

theorem quiet_toggled (scope : RunScope) (alertType : AlertType) :
    scope.Quiet { scope with alerts := scope.alerts.toggleFocus alertType } [] :=
  quiet_withAlerts rfl pageless_nil

/-- Highlighting alerts may move the window to the first of them. -/
theorem keeps_toggleAlerts (hsound : scope.Sound limit) (run : RunId) (alertType : AlertType) :
    scope.Keeps (scope.toggleAlerts run alertType).1 := by
  have htoggled := (scope.quiet_toggled alertType).keeps
  refine toggleAlerts_induct (motive := fun after _ => scope.Keeps after) alertType htoggled ?_ ?_
  · intro index
    exact htoggled.trans (keeps_scroll (hsound.withAlerts _) run .executions (.recenter index))
  · intro moved _ hmoved
    exact hmoved.trans (moved.quiet_requestAlerts run alertType).keeps

/-- Changing the stage of a content keeps its lines. -/
theorem lines_modifyContent {shelf marked : SourceShelf} {file : SourceFile} {phase : LoadPhase}
    (hmodify : shelf.modifyContent file (fun content => { content with phase }) = .ok marked) :
    marked.contents.map FileContent.lines = shelf.contents.map FileContent.lines := by
  obtain ⟨place, _, _, rfl⟩ := SourceShelf.modifyContent_eq_ok_iff.mp hmodify
  refine List.ext_getElem? fun index => ?_
  rw [List.getElem?_map, List.getElem?_map, List.getElem?_modify]
  cases shelf.contents[index]? with
  | none => rfl
  | some content => by_cases heq : place = index <;> simp [heq]

theorem quiet_requestFile (scope : RunScope) (run : RunId) (file : SourceFile) :
    scope.Quiet (scope.requestFile run file).1
      (Command.queueOf (scope.requestFile run file).2) := by
  rw [requestFile]
  rcases SourceShelf.requestFile_spec scope.sources file with ⟨error, hrequest⟩ | hrequest |
    ⟨marked, hmodify, hrequest⟩
  · rw [hrequest]
    exact scope.quiet_self
  · rw [hrequest]
    exact scope.quiet_self
  · rw [hrequest]
    exact quiet_withSources (SourceShelf.files_modifyContent hmodify).1
      (lines_modifyContent hmodify) (pageless_fetch run (by rintro kind range ⟨⟩))

theorem keeps_operate (hsound : scope.Sound limit) (run : RunId) (operation : Operation) :
    scope.Keeps (scope.operate run operation).1 := by
  cases operation with
  | refresh => exact (scope.quiet_refresh run).keeps
  | scroll kind step => exact keeps_scroll hsound run kind step
  | focusByOffset kind offset => exact (scope.quiet_focusByOffset kind offset).keeps
  | toggleAlerts alertType => exact keeps_toggleAlerts hsound run alertType
  | focusOp key => exact (scope.quiet_focusOp key).keeps
  | requestOp key => exact (scope.quiet_requestOp run key).keeps
  | requestFile file => exact (scope.quiet_requestFile run file).keeps

/-! ## Settling -/

theorem quiet_requestOrigin (scope : RunScope) (run : RunId) :
    scope.Quiet (scope.requestOrigin run).1 (scope.requestOrigin run).2.queue := by
  rw [requestOrigin]
  cases scope.focusOrigin with
  | none => exact scope.quiet_self
  | some origin =>
      cases origin with
      | execution index =>
          dsimp only
          rw [ExecutionTimeline.requestRecord]
          split_ifs
          · exact scope.quiet_self
          · exact ⟨calm_of_eq rfl rfl (pageless_fetch run (by rintro kind range ⟨⟩)),
              ⟨rfl, rfl, rfl, rfl, rfl, rfl⟩⟩
      | graphOpCreation key => exact scope.quiet_requestOp run key

theorem quiet_requestMissingFrames (scope : RunScope) (run : RunId) :
    scope.Quiet (scope.requestMissingFrames run).1 (scope.requestMissingFrames run).2.queue := by
  rw [requestMissingFrames]
  split
  · exact scope.quiet_self
  · exact ⟨calm_of_eq rfl rfl (pageless_fetch run (by rintro kind range ⟨⟩)),
      ⟨rfl, rfl, rfl, rfl, rfl, rfl⟩⟩

theorem quiet_followLastFrame (scope : RunScope) : scope.Quiet scope.followLastFrame [] := by
  rw [followLastFrame]
  split
  · rename_i frames line _ _
    cases StackTrace.follow frames line with
    | none => exact scope.quiet_self
    | some target => exact scope.quiet_setFocusLine target
  · exact scope.quiet_self

theorem quiet_requestFocusedFile (scope : RunScope) (run : RunId) :
    scope.Quiet (scope.requestFocusedFile run).1 (scope.requestFocusedFile run).2.queue := by
  rw [requestFocusedFile]
  cases scope.sources.focusLine with
  | none => exact scope.quiet_self
  | some line =>
      have hrequested := scope.quiet_requestFile run line.file
      dsimp only
      rcases hfile : scope.requestFile run line.file with ⟨requested, error | command⟩
      · exact scope.quiet_self
      · rw [hfile] at hrequested
        exact hrequested

/-- Settling brings no data and asks for no page. -/
theorem quiet_settle (scope : RunScope) (run : RunId) (sticky : Bool) :
    scope.Quiet (scope.settle run sticky).1 (scope.settle run sticky).2.queue := by
  have hframed := (scope.quiet_requestOrigin run).trans
    ((scope.requestOrigin run).1.quiet_requestMissingFrames run)
  rw [settle, Command.queue_combine]
  simp only [List.flatMap_cons, List.flatMap_nil, List.append_nil]
  rw [← List.append_assoc]
  cases sticky with
  | false => exact hframed.trans (quiet_requestFocusedFile _ run)
  | true =>
      have hfollowed := hframed.trans (quiet_followLastFrame _)
      rw [List.append_nil] at hfollowed
      exact hfollowed.trans (quiet_requestFocusedFile _ run)

/-! ## Outcomes that bring nothing -/

theorem quiet_focusFirst (scope : RunScope) (total : Nat) :
    scope.Quiet (scope.focusFirst total) [] := by
  rw [focusFirst]
  split_ifs
  · exact ⟨⟨⟨rfl, rfl, rfl⟩, ⟨rfl, rfl, rfl⟩, pageless_nil⟩, ⟨rfl, rfl, rfl, rfl, rfl, rfl⟩⟩
  · exact scope.quiet_self

theorem quiet_focusGraphExecution (scope : RunScope) (focus : Option Nat) :
    scope.Quiet { scope with graphExecutions := scope.graphExecutions.setFocus focus } [] :=
  ⟨⟨⟨rfl, rfl, rfl⟩, ⟨rfl, rfl, rfl⟩, pageless_nil⟩, ⟨rfl, rfl, rfl, rfl, rfl, rfl⟩⟩

/-- A tally may lead to a request for the highlighted alerts. -/
theorem quiet_tally (scope : RunScope) (run : RunId) (now : Nat) (tally : AlertTally) :
    scope.Quiet (scope.onReply run now (.numAlertsAndBreakdown tally)).1
      (Command.queueOf
        ((scope.onReply run now (.numAlertsAndBreakdown tally)).2.map Prod.fst)) := by
  have htallied : scope.Quiet { scope with alerts := (scope.alerts.onTally tally now).1 } [] :=
    quiet_withAlerts rfl pageless_nil
  exact htallied.trans (quiet_requestFocusedAlerts _ run)

theorem graphs_updatePhase (store : OpStore) (key : GraphOpKey) (phase : LoadPhase) :
    (store.updatePhase key phase).graphs = store.graphs := by
  obtain ⟨phases, hupdated⟩ := store.updatePhase_eq key phase
  rw [hupdated]

/-- A failed fetch for anything but a page. -/
theorem quiet_onFetchFailed (scope : RunScope) {request : Request}
    (hrequest : ∀ kind range, request ≠ .page kind range) :
    scope.Quiet (scope.onFetchFailed request) [] := by
  cases request with
  | numExecutions =>
      exact ⟨⟨⟨rfl, rfl, rfl⟩, ⟨rfl, rfl, rfl⟩, pageless_nil⟩, ⟨rfl, rfl, rfl, rfl, rfl, rfl⟩⟩
  | numGraphExecutions =>
      exact ⟨⟨⟨rfl, rfl, rfl⟩, ⟨rfl, rfl, rfl⟩, pageless_nil⟩, ⟨rfl, rfl, rfl, rfl, rfl, rfl⟩⟩
  | page kind range => exact absurd rfl (hrequest kind range)
  | executionData range =>
      exact ⟨calm_of_eq rfl rfl pageless_nil, ⟨rfl, rfl, rfl, rfl, rfl, rfl⟩⟩
  | stackFrames ids =>
      exact ⟨calm_of_eq rfl rfl pageless_nil, ⟨rfl, rfl, rfl, rfl, rfl, rfl⟩⟩
  | graphOpInfo key => exact quiet_withOps (graphs_updatePhase ..) pageless_nil
  | sourceFileList => exact quiet_withSources rfl rfl pageless_nil
  | sourceFile file =>
      rw [onFetchFailed, SourceShelf.onFileFailed]
      rcases hmodify : scope.sources.modifyContent file fun content =>
        { content with phase := .failed } with error | marked
      · exact scope.quiet_self
      · exact quiet_withSources (SourceShelf.files_modifyContent hmodify).1
          (lines_modifyContent hmodify) pageless_nil
  | numAlertsAndBreakdown => exact quiet_withAlerts rfl pageless_nil
  | alertsOfType alertType range => exact quiet_withAlerts rfl pageless_nil

/-- A failed fetch of a page takes a mark, and brings nothing either. -/
theorem keeps_onFetchFailed (scope : RunScope) (request : Request) :
    scope.Keeps (scope.onFetchFailed request) := by
  by_cases hpage : ∃ kind range, request = .page kind range
  · obtain ⟨kind, range, rfl⟩ := hpage
    cases kind with
    | executions => exact keeps_withDigests ⟨rfl, rfl⟩
    | graphExecutions => exact keeps_withGraphExecutions ⟨rfl, rfl⟩
  · have hother : ∀ kind range, request ≠ .page kind range :=
      fun kind range heq => hpage ⟨kind, range, heq⟩
    exact (scope.quiet_onFetchFailed hother).keeps

end RunScope

end TraceViewer
