import TraceViewer.Proofs.Session.Backing
import TraceViewer.Proofs.Session.Geometry
import TraceViewer.Proofs.Session.Settling

/-!
# What is asked for

A session asks for things of its active run only, apart from the listing of the runs, and
it asks for what exists: whole pages that end by the total of the run, and records before
that total (`Request.Proper`).

Every transition is covered by one lemma about its queue: the operations of the user
(`addressed_operate`), the replies (`addressed_onReply`) and settling
(`mem_queue_settle`).  A failure asks for nothing.
-/

namespace TraceViewer

/-- A request for items that exist; pages are asked for from the start of a page on. -/
def Request.Proper (geometry : SequenceKind → Geometry) (limit : SequenceKind → Nat) :
    Request → Prop
  | .page kind range => range.start % (geometry kind).pageSize = 0 ∧ range.start < range.stop ∧
      range.stop ≤ limit kind
  | .executionData range => range.start < range.stop ∧ range.stop ≤ limit .executions
  | .numExecutions | .numGraphExecutions | .stackFrames _ | .graphOpInfo _ | .sourceFileList
  | .sourceFile _ | .numAlertsAndBreakdown | .alertsOfType _ _ => True

/-- Whether a request is for something that a focus can be missing, in a run of so many
executions. -/
def Request.IsFocal (total : Nat) : Request → Prop
  | .executionData range => range.stop = range.start + 1 ∧ range.start < total
  | .stackFrames _ | .graphOpInfo _ | .sourceFile _ => True
  | .page _ _ | .numExecutions | .numGraphExecutions | .sourceFileList | .numAlertsAndBreakdown
  | .alertsOfType _ _ => False

/-- Whether a queue holds proper requests of one run, and nothing else. -/
def Addressed (geometry : SequenceKind → Geometry) (limit : SequenceKind → Nat) (run : RunId)
    (queue : List PendingFetch) : Prop :=
  ∀ fetch ∈ queue, ∃ request, fetch = .data run request ∧ request.Proper geometry limit

section Queues

variable {geometry : SequenceKind → Geometry} {limit : SequenceKind → Nat} {run : RunId}
  {first second queue : List PendingFetch}

theorem addressed_nil : Addressed geometry limit run [] := by
  rintro fetch ⟨⟩

theorem addressed_fetch {request : Request} (hproper : request.Proper geometry limit) :
    Addressed geometry limit run [.data run request] := by
  intro fetch hmem
  exact ⟨request, List.mem_singleton.mp hmem, hproper⟩

theorem Addressed.append (hfirst : Addressed geometry limit run first)
    (hsecond : Addressed geometry limit run second) :
    Addressed geometry limit run (first ++ second) := by
  intro fetch hmem
  exact (List.mem_append.mp hmem).elim (hfirst fetch) (hsecond fetch)

theorem Request.Proper.mono {more : SequenceKind → Nat} {request : Request}
    (hproper : request.Proper geometry limit) (hle : ∀ kind, limit kind ≤ more kind) :
    request.Proper geometry more := by
  cases request with
  | page kind range => exact ⟨hproper.1, hproper.2.1, Nat.le_trans hproper.2.2 (hle kind)⟩
  | executionData range => exact ⟨hproper.1, Nat.le_trans hproper.2 (hle .executions)⟩
  | _ => trivial

end Queues

/-! ## Timelines -/

namespace Timeline

variable {α : Type} {timeline : Timeline α} {geometry : SequenceKind → Geometry}
  {limit : SequenceKind → Nat} {run : RunId}

theorem addressed_requestTotal (timeline : Timeline α) (run : RunId) :
    Addressed geometry limit run (timeline.requestTotal run).2.queue := by
  refine addressed_fetch ?_
  cases timeline.kind <;> exact True.intro

theorem addressed_asking (hgeometry : geometry timeline.kind = timeline.view.geometry)
    {view : PagedView α} {demand : PageDemand} (hasks : timeline.view.Asks view demand)
    (hlimit : view.numItems ≤ limit timeline.kind) (run : RunId) :
    Addressed geometry limit run (timeline.asking run view demand).2.queue := by
  intro fetch hmem
  obtain ⟨range, hrange, rfl⟩ := (mem_queue_asking hasks run fetch).mp hmem
  have hfetch := hasks.fetchRange range hrange
  refine ⟨.page timeline.kind range, rfl, ?_, hfetch.nonempty,
    Nat.le_trans hfetch.stop_le hlimit⟩
  rw [hgeometry]
  exact hfetch.aligned

variable (hgeometry : geometry timeline.kind = timeline.view.geometry)
  (hsound : timeline.Sound (limit timeline.kind))

include hgeometry hsound in
theorem addressed_scroll (run : RunId) (step : ScrollStep) :
    Addressed geometry limit run (Command.queueOf (timeline.scroll run step).2) := by
  rcases scroll_spec hsound run step with ⟨error, hscroll⟩ | hscroll |
    ⟨view, demand, hresolved, htotal, hscroll⟩
  · rw [hscroll]
    exact addressed_nil
  · rw [hscroll]
    exact addressed_nil
  · rw [hscroll]
    exact addressed_asking hgeometry hresolved.1 (htotal ▸ hsound.numItems_le) run

include hgeometry hsound in
theorem addressed_onTotal {total : Nat} (hlimit : total ≤ limit timeline.kind) (now : Nat) :
    Addressed geometry limit run
      (Command.queueOf ((timeline.onTotal run total now).2.map Prod.fst)) := by
  by_cases hlt : total < timeline.numItems
  · obtain ⟨error, htotal⟩ := onTotal_of_lt hlt run now
    rw [htotal]
    exact addressed_nil
  · obtain ⟨view, demand, hresolved, hknown, _, htotal⟩ :=
      onTotal_of_le hsound (Nat.le_of_not_lt hlt) run now
    let finished := { timeline with totalLoad := timeline.totalLoad.finish now }
    have hasks : finished.view.Asks view demand := hresolved.1
    have hgeometry' : geometry finished.kind = finished.view.geometry := hgeometry
    have hasked : Addressed geometry limit run (finished.asking run view demand).2.queue :=
      addressed_asking hgeometry' hasks (hknown ▸ hlimit) run
    rw [htotal]
    exact hasked

include hgeometry hsound in
theorem addressed_onPage {batch : Batch α} (hlimit : batch.total ≤ limit timeline.kind)
    (now : Nat) :
    Addressed geometry limit run
      (Command.queueOf ((timeline.onPage run batch now).2.map Prod.fst)) := by
  by_cases haccepts : timeline.view.sequence.Accepts batch
  · by_cases hlt : timeline.numItems < batch.total
    · obtain ⟨view, demand, hresolved, hknown, _, hpage⟩ :=
        onPage_of_accepts_lt hsound haccepts hlt hlimit run now
      have hkind : (timeline.merged batch now).kind = timeline.kind := by
        rw [merged_eq]
      have hview : (timeline.merged batch now).view = (timeline.view.merge batch).1 := by
        rw [merged_eq]
      rw [hpage]
      -- what is asked for is measured by the geometry that the merge has kept
      refine addressed_asking ?_ hresolved.1 ?_ run
      · rw [hkind, hgeometry, hview, PagedView.geometry_merge]
      · rw [hkind, hknown]
        exact hlimit
    · rw [onPage_of_accepts_le haccepts (Nat.le_of_not_lt hlt)]
      exact addressed_nil
  · obtain ⟨error, hpage⟩ := onPage_of_not_accepts haccepts run now
    rw [hpage]
    exact addressed_nil

end Timeline

/-! ## Scopes -/

namespace RunScope

variable {limit : SequenceKind → Nat} {scope : RunScope} {run : RunId}

theorem Sound.geometry_digests (hsound : scope.Sound limit) :
    scope.geometry scope.executions.digests.kind = scope.executions.digests.view.geometry := by
  rw [hsound.digests_kind]
  rfl

theorem Sound.geometry_graph (hsound : scope.Sound limit) :
    scope.geometry scope.graphExecutions.kind = scope.graphExecutions.view.geometry := by
  rw [hsound.graph_kind]
  rfl

theorem Sound.digests_of_kind (hsound : scope.Sound limit) :
    scope.executions.digests.Sound (limit scope.executions.digests.kind) := by
  rw [hsound.digests_kind]
  exact hsound.digests

theorem Sound.graph_of_kind (hsound : scope.Sound limit) :
    scope.graphExecutions.Sound (limit scope.graphExecutions.kind) := by
  rw [hsound.graph_kind]
  exact hsound.graphExecutions

theorem addressed_requestOp (scope : RunScope) (run : RunId) (key : GraphOpKey) :
    Addressed scope.geometry limit run (scope.requestOp run key).2.queue := by
  rw [requestOp]
  rcases scope.ops.request key with ⟨ops, _ | _⟩
  · exact addressed_nil
  · exact addressed_fetch True.intro

theorem addressed_requestAlerts (scope : RunScope) (run : RunId) (alertType : AlertType) :
    Addressed scope.geometry limit run (scope.requestAlerts run alertType).2.queue := by
  rw [requestAlerts]
  rcases scope.alerts.requestType alertType with ⟨alerts, _ | range⟩
  · exact addressed_nil
  · exact addressed_fetch True.intro

theorem addressed_requestFile (scope : RunScope) (run : RunId) (file : SourceFile) :
    Addressed scope.geometry limit run (Command.queueOf (scope.requestFile run file).2) := by
  rw [requestFile]
  rcases scope.sources.requestFile file with error | ⟨sources, _ | _⟩
  · exact addressed_nil
  · exact addressed_nil
  · exact addressed_fetch True.intro

theorem addressed_refresh (scope : RunScope) (run : RunId) :
    Addressed scope.geometry limit run (scope.refresh run).2.queue := by
  have hdigests : Addressed scope.geometry limit run
      (scope.executions.digests.requestTotal run).2.queue := Timeline.addressed_requestTotal _ run
  have hgraph : Addressed scope.geometry limit run
      (scope.graphExecutions.requestTotal run).2.queue := Timeline.addressed_requestTotal _ run
  have htally : Addressed scope.geometry limit run [.data run .numAlertsAndBreakdown] :=
    addressed_fetch True.intro
  have hfiles : Addressed scope.geometry limit run [.data run .sourceFileList] :=
    addressed_fetch True.intro
  rw [refresh, Command.queue_combine]
  exact hdigests.append (hgraph.append (htally.append hfiles))

theorem addressed_scroll (hsound : scope.Sound limit) (run : RunId) (kind : SequenceKind)
    (step : ScrollStep) :
    Addressed scope.geometry limit run (Command.queueOf (scope.scroll run kind step).2) := by
  cases kind with
  | executions =>
      exact Timeline.addressed_scroll hsound.geometry_digests hsound.digests_of_kind run step
  | graphExecutions =>
      exact Timeline.addressed_scroll hsound.geometry_graph hsound.graph_of_kind run step

theorem addressed_toggleAlerts (hsound : scope.Sound limit) (run : RunId)
    (alertType : AlertType) :
    Addressed scope.geometry limit run
      (Command.queueOf (scope.toggleAlerts run alertType).2) := by
  -- the alerts are asked for after the move, which has to keep the geometry
  have htoggled : (scope.toggleAlerts run alertType).1.geometry = scope.geometry ∧
      Addressed scope.geometry limit run
        (Command.queueOf (scope.toggleAlerts run alertType).2) := by
    refine toggleAlerts_induct (motive := fun after queue => after.geometry = scope.geometry ∧
      Addressed scope.geometry limit run queue) alertType ⟨rfl, addressed_nil⟩ ?_ ?_
    · intro index
      exact ⟨geometry_scroll .., addressed_scroll (hsound.withAlerts _) run .executions _⟩
    · rintro moved queue ⟨hgeometry, hasked⟩
      refine ⟨hgeometry, hasked.append ?_⟩
      rw [← hgeometry]
      exact moved.addressed_requestAlerts run alertType
  exact htoggled.2

theorem addressed_operate (hsound : scope.Sound limit) (run : RunId) (operation : Operation) :
    Addressed scope.geometry limit run (Command.queueOf (scope.operate run operation).2) := by
  cases operation with
  | refresh => exact scope.addressed_refresh run
  | scroll kind step => exact addressed_scroll hsound run kind step
  | focusByOffset | focusOp => exact addressed_nil
  | toggleAlerts alertType => exact addressed_toggleAlerts hsound run alertType
  | requestOp key => exact scope.addressed_requestOp run key
  | requestFile file => exact scope.addressed_requestFile run file

/-! ## Replies -/

theorem addressed_onReply (hsound : scope.Sound limit) {reply : Reply}
    (hreply : reply.Sound limit) (run : RunId) (now : Nat) :
    Addressed scope.geometry limit run
      (Command.queueOf ((scope.onReply run now reply).2.map Prod.fst)) := by
  cases reply with
  | numExecutions total =>
      have hlimit : total ≤ limit scope.executions.digests.kind := by
        rw [hsound.digests_kind]
        exact hreply
      refine numExecutions_induct (motive := fun _ queue =>
        Addressed scope.geometry limit run queue) now total ?_ fun _ _ htaken => htaken
      exact Timeline.addressed_onTotal hsound.geometry_digests hsound.digests_of_kind hlimit now
  | numGraphExecutions total =>
      have hlimit : total ≤ limit scope.graphExecutions.kind := by
        rw [hsound.graph_kind]
        exact hreply
      exact Timeline.addressed_onTotal hsound.geometry_graph hsound.graph_of_kind
        hlimit now
  | executionDigests batch =>
      have hlimit : batch.total ≤ limit scope.executions.digests.kind := by
        rw [hsound.digests_kind]
        exact hreply
      exact Timeline.addressed_onPage hsound.geometry_digests hsound.digests_of_kind
        hlimit now
  | graphExecutions batch =>
      have hlimit : batch.total ≤ limit scope.graphExecutions.kind := by
        rw [hsound.graph_kind]
        exact hreply
      exact Timeline.addressed_onPage hsound.geometry_graph hsound.graph_of_kind
        hlimit now
  | executionData range records =>
      rw [onReply]
      rcases scope.executions.onRecords range records with ⟨executions, error | _⟩ <;>
        exact addressed_nil
  | stackFrames frames => exact addressed_nil
  | graphOpInfo op =>
      rw [onReply]
      rcases scope.ops.onLoaded op with ⟨ops, error | _⟩ <;> exact addressed_nil
  | sourceFileList files => exact addressed_nil
  | sourceFile file lines =>
      rw [onReply]
      rcases scope.sources.onFileLoaded file lines with error | sources <;> exact addressed_nil
  | numAlertsAndBreakdown tally =>
      let tallied := { scope with alerts := (scope.alerts.onTally tally now).1 }
      change Addressed tallied.geometry limit run (tallied.requestFocusedAlerts run).2.queue
      rw [requestFocusedAlerts]
      split
      · exact addressed_nil
      · exact tallied.addressed_requestAlerts run _
  | alertsOfType alertType range tally alerts =>
      refine alertsOfType_induct (motive := fun _ queue =>
        Addressed scope.geometry limit run queue) now alertType range tally alerts addressed_nil
        addressed_nil ?_ fun _ _ _ hmoved => hmoved
      intro index
      exact addressed_scroll (hsound.withAlerts _) run .executions _

/-! ## Settling -/

theorem mem_queue_requestOrigin (hsound : scope.Sound limit) {fetch : PendingFetch}
    (hmem : fetch ∈ (scope.requestOrigin run).2.queue) :
    ∃ request, fetch = .data run request ∧ request.IsFocal (limit .executions) := by
  rw [requestOrigin] at hmem
  split at hmem
  · cases hmem
  · next index _ =>
      dsimp only at hmem
      rw [ExecutionTimeline.requestRecord] at hmem
      split_ifs at hmem with hneedless
      · cases hmem
      · -- a record past the end is not asked for
        have hindex : index < scope.executions.digests.numItems := by
          by_contra hge
          exact hneedless (Or.inl (Nat.le_of_not_lt hge))
        exact ⟨_, List.mem_singleton.mp hmem, rfl,
          Nat.lt_of_lt_of_le hindex hsound.digests.numItems_le⟩
  · next key _ =>
      rw [requestOp] at hmem
      rcases hrequest : scope.ops.request key with ⟨ops, _ | _⟩ <;> rw [hrequest] at hmem
      · cases hmem
      · exact ⟨_, List.mem_singleton.mp hmem, True.intro⟩

theorem mem_queue_requestMissingFrames {fetch : PendingFetch}
    (hmem : fetch ∈ (scope.requestMissingFrames run).2.queue) (total : Nat) :
    ∃ request, fetch = .data run request ∧ request.IsFocal total := by
  rw [requestMissingFrames] at hmem
  split at hmem
  · cases hmem
  · exact ⟨_, List.mem_singleton.mp hmem, True.intro⟩

theorem mem_queue_requestFocusedFile {fetch : PendingFetch}
    (hmem : fetch ∈ (scope.requestFocusedFile run).2.queue) (total : Nat) :
    ∃ request, fetch = .data run request ∧ request.IsFocal total := by
  rw [requestFocusedFile] at hmem
  split at hmem
  · cases hmem
  · next line _ =>
      rw [requestFile] at hmem
      rcases hfile : scope.sources.requestFile line.file with error | ⟨sources, _ | _⟩ <;>
        rw [hfile] at hmem
      · cases hmem
      · cases hmem
      · exact ⟨_, List.mem_singleton.mp hmem, True.intro⟩

/-- Settling asks for what the focus is missing. -/
theorem mem_queue_settle (hsound : scope.Sound limit) {sticky : Bool} {fetch : PendingFetch}
    (hmem : fetch ∈ (scope.settle run sticky).2.queue) :
    ∃ request, fetch = .data run request ∧ request.IsFocal (limit .executions) := by
  rw [settle, Command.queue_combine] at hmem
  simp only [List.flatMap_cons, List.flatMap_nil, List.append_nil, List.mem_append] at hmem
  rcases hmem with hrecord | hframes | hfile
  · exact mem_queue_requestOrigin hsound hrecord
  · exact mem_queue_requestMissingFrames hframes _
  · exact mem_queue_requestFocusedFile hfile _

theorem addressed_settle (hsound : scope.Sound limit) (run : RunId) (sticky : Bool)
    (geometry : SequenceKind → Geometry) :
    Addressed geometry limit run (scope.settle run sticky).2.queue := by
  intro fetch hmem
  obtain ⟨request, hfetch, hfocal⟩ := mem_queue_settle hsound hmem
  refine ⟨request, hfetch, ?_⟩
  cases request with
  | executionData range =>
      obtain ⟨hstop, hstart⟩ := hfocal
      constructor <;> omega
  | stackFrames | graphOpInfo | sourceFile => exact True.intro
  | _ => exact hfocal.elim

end RunScope

/-! ## Sessions -/

namespace Session

variable {limit : RunId → SequenceKind → Nat} {session : Session}
  {pending queue : List PendingFetch}

/-- Whether a queue holds proper requests of the active run, and nothing else. -/
def Asks (limit : RunId → SequenceKind → Nat) (session : Session) (queue : List PendingFetch) :
    Prop :=
  ∀ fetch ∈ queue, ∃ run request, fetch = .data run request ∧ session.activeRun = some run ∧
    request.Proper session.config.geometry (limit run)

theorem asks_nil : session.Asks limit [] := by
  rintro fetch ⟨⟩

theorem asks_of_addressed {run : RunId} (hactive : session.activeRun = some run)
    (haddressed : Addressed session.config.geometry (limit run) run queue) :
    session.Asks limit queue := by
  intro fetch hmem
  obtain ⟨request, hfetch, hproper⟩ := haddressed fetch hmem
  exact ⟨run, request, hfetch, hactive, hproper⟩

theorem asks_inRun (hshaped : session.Shaped)
    {change : RunScope → RunId → RunScope × Except ViewError Command}
    (hchange : ∀ run, session.activeRun = some run →
      Addressed session.scope.geometry (limit run) run
        (Command.queueOf (change session.scope run).2)) :
    (session.inRun change).1.Asks limit (Command.queueOf (session.inRun change).2) := by
  rcases Option.eq_none_or_eq_some session.activeRun with hactive | ⟨run, hactive⟩
  · rw [inRun_of_none hactive]
    exact asks_nil
  · have hasked := hchange run hactive
    rw [hshaped] at hasked
    rw [inRun_of_some hactive]
    exact asks_of_addressed hactive hasked

theorem asks_refresh (hshaped : session.Shaped) :
    session.refresh.1.Asks limit (Command.queueOf session.refresh.2) :=
  asks_inRun hshaped fun run _ => session.scope.addressed_refresh run

theorem asks_changeRun (session : Session) (run : Option RunId) :
    (session.changeRun run).1.Asks limit (Command.queueOf (session.changeRun run).2) := by
  let selected : Session :=
    { session with activeRun := run, scope := .fresh session.config session.config_valid }
  have hselected : selected.Shaped := geometry_fresh session.config session.config_valid
  exact asks_refresh hselected

/-- An event of the user asks for the listing, or for things of the active run. -/
theorem asks_reduce_user (hshaped : session.Shaped) (hbacked : session.Backed limit pending)
    (now : Nat) {event : Event} (huser : event.isUser = true) :
    (session.reduce now event).2 = .ok .fetchRuns ∨
      (session.reduce now event).1.Asks limit
        (Command.queueOf (session.reduce now event).2) := by
  rcases session.reduce_user now huser with ⟨run, _, hchange⟩ | hstep
  · rw [hchange]
    exact Or.inr (session.asks_changeRun run)
  · generalize session.reduce now event = result at hstep
    cases hstep with
    | listing => exact Or.inl rfl
    | operate pollOnset operation =>
        have hstarted : { session with pollOnset }.Shaped := hshaped
        refine Or.inr (asks_inRun hstarted fun run hactive => ?_)
        exact RunScope.addressed_operate (hbacked.sound_active hactive) run operation
    | click | stick => exact Or.inr asks_nil

theorem asks_reduce_answer (hshaped : session.Shaped) (hbacked : session.Backed limit pending)
    (now : Nat) {fetch : PendingFetch} {event : Event} (hanswers : fetch.Answers limit event) :
    (session.reduce now event).1.Asks limit
      (Command.queueOf (session.reduce now event).2) := by
  cases hanswers with
  | runsLoaded runs =>
      rw [reduce]
      split_ifs
      · exact asks_nil
      · -- the listing selects another run, and then that one is asked
        exact asks_changeRun _ runs.minKey?
  | runsFailed => exact asks_nil
  | @loaded run request reply hsound =>
      rw [reduce, onLoaded]
      split_ifs with hactive
      · have hasked := RunScope.addressed_onReply (hbacked.sound_active hactive) hsound run now
        rw [hshaped] at hasked
        rcases hreply : session.scope.onReply run now reply with
          ⟨scope, error | ⟨command, grew⟩⟩ <;> rw [hreply] at hasked
        · exact asks_nil
        · exact asks_of_addressed hactive hasked
      · exact asks_nil
  | fetchFailed run request => exact asks_nil

theorem asks_settle (hbacked : session.Backed limit pending) :
    session.settle.1.Asks limit session.settle.2.queue := by
  rcases Option.eq_none_or_eq_some session.activeRun with hactive | ⟨run, hactive⟩
  · rw [settle_of_none hactive]
    exact asks_nil
  · rw [settle_of_some hactive]
    exact asks_of_addressed hactive
      (RunScope.addressed_settle (hbacked.sound_active hactive) run session.stickyFocus _)

/-- What a transition asks for is what the event leads to and what settling adds; settling leaves
the run and the configuration that the requests are for. -/
theorem forall_queue_apply {motive : Option RunId → Config → PendingFetch → Prop} {event : Event}
    {now : Nat}
    (hreduced : ∀ fetch ∈ Command.queueOf (session.reduce now event).2,
      motive (session.reduce now event).1.activeRun (session.reduce now event).1.config fetch)
    (hsettle : ∀ fetch ∈ (session.reduce now event).1.settle.2.queue,
      motive (session.reduce now event).1.settle.1.activeRun
        (session.reduce now event).1.settle.1.config fetch) :
    ∀ fetch ∈ Command.queueOf (session.apply event now).2,
      motive (session.apply event now).1.activeRun (session.apply event now).1.config fetch := by
  refine apply_induct (motive := fun after queue =>
    ∀ fetch ∈ queue, motive after.activeRun after.config fetch) hreduced fun fetch hmem => ?_
  rcases List.mem_append.mp hmem with hfirst | hfurther
  · rw [activeRun_settle, (reshapes_settle _).config_eq]
    exact hreduced fetch hfirst
  · exact hsettle fetch hfurther

theorem asks_apply {event : Event} {now : Nat}
    (hbacked : (session.reduce now event).1.Backed limit pending)
    (hreduced : (session.reduce now event).1.Asks limit
      (Command.queueOf (session.reduce now event).2)) :
    (session.apply event now).1.Asks limit (Command.queueOf (session.apply event now).2) :=
  forall_queue_apply (motive := fun active config fetch => ∃ run request,
    fetch = .data run request ∧ active = some run ∧ request.Proper config.geometry (limit run))
    hreduced (asks_settle hbacked)

end Session

end TraceViewer
