import TraceViewer.Proofs.Session.Acceptance
import TraceViewer.Proofs.Session.Touching

/-!
# The pages that an operation asks for

What an operation does to one of the two sequences of a scope, besides what a page brings,
is to ask: it marks pages, perhaps at a larger total, and queues exactly the ranges of the
pages that it has marked (`Timeline.Demands`).  Most operations ask for nothing.

`RunScope.Demands` says the same of a scope and one of its sequences.  It holds of every
operation of the user (`demands_operate`), of settling, of every reply and of every failure
(`demands_onReply`, `demands_onFetchFailed`), except those for a page of that sequence.  A
page is stored first, and then the window is asked for (`Timeline.demands_onPage`).
-/

namespace TraceViewer

/-! ## Ranges of a queue -/

/-- The range of a fetch for a page of a sequence. -/
def PendingFetch.rangeOf? (kind : SequenceKind) : PendingFetch → Option Interval
  | .data _ (.page other range) => if other = kind then some range else none
  | _ => none

/-- The ranges of a sequence that a queue asks for, in order. -/
def rangesOf (kind : SequenceKind) (queue : List PendingFetch) : List Interval :=
  queue.filterMap (·.rangeOf? kind)

section Queues

variable {kind : SequenceKind} {queue : List PendingFetch}

theorem PendingFetch.rangeOf?_eq_some_iff {fetch : PendingFetch} {range : Interval} :
    fetch.rangeOf? kind = some range ↔ ∃ run, fetch = .data run (.page kind range) := by
  cases fetch with
  | runs => simp [rangeOf?]
  | data run request =>
      cases request with
      | page other asked =>
          by_cases hsame : other = kind
          · subst hsame
            simp [rangeOf?]
          · simp [rangeOf?, hsame]
      | _ => simp [rangeOf?]

theorem rangesOf_append (kind : SequenceKind) (first second : List PendingFetch) :
    rangesOf kind (first ++ second) = rangesOf kind first ++ rangesOf kind second :=
  List.filterMap_append

theorem rangesOf_eq_nil (hnone : ∀ run range, .data run (.page kind range) ∉ queue) :
    rangesOf kind queue = [] := by
  rw [rangesOf, List.filterMap_eq_nil_iff]
  intro fetch hmem
  by_contra hrange
  obtain ⟨range, hrange⟩ := Option.ne_none_iff_exists'.mp hrange
  obtain ⟨run, rfl⟩ := PendingFetch.rangeOf?_eq_some_iff.mp hrange
  exact hnone run range hmem

theorem Pageless.rangesOf_eq_nil (hpageless : Pageless queue) : rangesOf kind queue = [] :=
  TraceViewer.rangesOf_eq_nil fun run => hpageless run kind

theorem Timeline.OnlyPages.rangesOf_eq_nil {other : SequenceKind}
    (honly : Timeline.OnlyPages other queue) (hne : kind ≠ other) : rangesOf kind queue = [] := by
  refine TraceViewer.rangesOf_eq_nil fun run range hmem => ?_
  obtain ⟨_, _, heq⟩ := honly _ hmem
  cases heq
  exact hne rfl

end Queues

/-! ## Timelines -/

namespace Timeline

variable {α : Type} {timeline before middle after : Timeline α} {limit : Nat}
  {queue more : List PendingFetch}

/-- An operation asks for what it queues, and does nothing else to the sequence. -/
structure Demands (before after : Timeline α) (queue : List PendingFetch) : Prop where
  kind_eq : after.kind = before.kind
  asks : ∃ demand, before.view.Asks { before.view with sequence := after.view.sequence } demand ∧
    rangesOf before.kind queue = demand.ranges

theorem Still.demands (hstill : before.Still after) (hnone : rangesOf before.kind queue = []) :
    before.Demands after queue where
  kind_eq := hstill.kind_eq
  asks := by
    rw [hstill.sequence_eq, hnone]
    exact ⟨{}, before.view.asks_self, rfl⟩

theorem Still.trans_demands (hstill : before.Still middle) (hdemands : middle.Demands after queue) :
    before.Demands after queue where
  kind_eq := hdemands.kind_eq.trans hstill.kind_eq
  asks := by
    obtain ⟨demand, hasks, hranges⟩ := hdemands.asks
    rw [hstill.kind_eq] at hranges
    have hsequence := hasks.sequence_eq
    have hnumItems := hasks.numItems_le
    have hlacks := hasks.lacks
    rw [PagedView.numItems, PagedView.numItems, hstill.sequence_eq] at hnumItems
    rw [hstill.sequence_eq] at hsequence hlacks
    exact ⟨demand, ⟨hsequence, hnumItems, rfl, hlacks⟩, hranges⟩

theorem Demands.trans_still (hdemands : before.Demands middle queue) (hstill : middle.Still after)
    (hnone : rangesOf before.kind more = []) : before.Demands after (queue ++ more) where
  kind_eq := hstill.kind_eq.trans hdemands.kind_eq
  asks := by
    obtain ⟨demand, hasks, hranges⟩ := hdemands.asks
    rw [hstill.sequence_eq, rangesOf_append, hnone, List.append_nil]
    exact ⟨demand, hasks, hranges⟩

/-- A demand is queued as one fetch for each of its ranges, in order. -/
theorem rangesOf_asking {view : PagedView α} {demand : PageDemand}
    (hasks : timeline.view.Asks view demand) (run : RunId) :
    rangesOf timeline.kind (timeline.asking run view demand).2.queue = demand.ranges := by
  rw [asking, issue]
  split_ifs with hempty
  · have hpages : demand.pages = [] := List.isEmpty_iff.mp hempty
    rw [hasks.lacks.ranges_eq, hpages]
    simp [rangesOf]
  · rw [Command.queue_combine, List.flatMap_map, rangesOf]
    simp [Command.queue, PendingFetch.rangeOf?, List.filterMap_flatMap]

theorem demands_asking {view : PagedView α} {demand : PageDemand}
    (hasks : timeline.view.Asks view demand) (run : RunId) :
    timeline.Demands (timeline.asking run view demand).1
      (timeline.asking run view demand).2.queue where
  kind_eq := by rw [asking_fst]
  asks := by
    rw [rangesOf_asking hasks, asking_fst]
    exact ⟨demand, ⟨hasks.sequence_eq, hasks.numItems_le, rfl, hasks.lacks⟩, rfl⟩

theorem demands_scroll (hsound : timeline.Sound limit) (run : RunId) (step : ScrollStep) :
    timeline.Demands (timeline.scroll run step).1
      (Command.queueOf (timeline.scroll run step).2) := by
  rcases scroll_spec hsound run step with ⟨error, hscroll⟩ | hscroll |
    ⟨view, demand, hresolved, _, hscroll⟩ <;> rw [hscroll]
  · exact timeline.still_self.demands rfl
  · exact timeline.still_self.demands rfl
  · exact demands_asking hresolved.1 run

theorem demands_onTotal (hsound : timeline.Sound limit) (run : RunId) (total now : Nat) :
    timeline.Demands (timeline.onTotal run total now).1
      (Command.queueOf ((timeline.onTotal run total now).2.map Prod.fst)) := by
  by_cases hlt : total < timeline.numItems
  · obtain ⟨error, htotal⟩ := onTotal_of_lt hlt run now
    rw [htotal]
    exact Still.demands ⟨rfl, rfl, rfl⟩ rfl
  · obtain ⟨view, demand, hresolved, _, _, htotal⟩ :=
      onTotal_of_le hsound (Nat.le_of_not_lt hlt) run now
    rw [htotal]
    let finished := { timeline with totalLoad := timeline.totalLoad.finish now }
    have hfinished : timeline.Still finished := ⟨rfl, rfl, rfl⟩
    have hasks : finished.view.Asks view demand := hresolved.1
    exact hfinished.trans_demands (demands_asking hasks run)

/-- A page that is accepted is stored, and then the window is asked for if the total grew. -/
theorem demands_onPage (hsound : timeline.Sound limit) {batch : Batch α}
    (haccepts : timeline.view.sequence.Accepts batch) (hlimit : batch.total ≤ limit) (run : RunId)
    (now : Nat) :
    (timeline.merged batch now).Demands (timeline.onPage run batch now).1
      (Command.queueOf ((timeline.onPage run batch now).2.map Prod.fst)) := by
  by_cases hlt : timeline.numItems < batch.total
  · obtain ⟨view, demand, hresolved, _, _, hpage⟩ :=
      onPage_of_accepts_lt hsound haccepts hlt hlimit run now
    rw [hpage]
    exact demands_asking hresolved.1 run
  · rw [onPage_of_accepts_le haccepts (Nat.le_of_not_lt hlt)]
    exact (still_self _).demands rfl

end Timeline

/-! ## Scopes -/

namespace RunScope

variable {limit : SequenceKind → Nat} {scope before middle after : RunScope}
  {queue more : List PendingFetch} {kind : SequenceKind}

/-- An operation asks for what it queues of a sequence, and does nothing else to it. -/
def Demands (before after : RunScope) (queue : List PendingFetch) : SequenceKind → Prop
  | .executions => before.executions.digests.Demands after.executions.digests queue
  | .graphExecutions => before.graphExecutions.Demands after.graphExecutions queue

theorem Calm.demands (hcalm : before.Calm after queue) (kind : SequenceKind) :
    before.Demands after queue kind := by
  cases kind with
  | executions => exact hcalm.digests.demands hcalm.pageless.rangesOf_eq_nil
  | graphExecutions => exact hcalm.graphExecutions.demands hcalm.pageless.rangesOf_eq_nil

theorem Calm.trans_demands (hcalm : before.Calm middle [])
    (hdemands : middle.Demands after queue kind) : before.Demands after queue kind := by
  cases kind with
  | executions => exact hcalm.digests.trans_demands hdemands
  | graphExecutions => exact hcalm.graphExecutions.trans_demands hdemands

theorem Demands.trans_calm (hdemands : before.Demands middle queue kind)
    (hcalm : middle.Calm after more) : before.Demands after (queue ++ more) kind := by
  cases kind with
  | executions =>
      exact Timeline.Demands.trans_still hdemands hcalm.digests hcalm.pageless.rangesOf_eq_nil
  | graphExecutions =>
      exact Timeline.Demands.trans_still hdemands hcalm.graphExecutions
        hcalm.pageless.rangesOf_eq_nil

/-- An operation on the digests asks for none of the executions inside graphs. -/
theorem demands_withDigests (hsound : scope.Sound limit) {digests : Timeline ExecutionDigest}
    (hdemands : scope.executions.digests.Demands digests queue)
    (honly : Timeline.OnlyPages scope.executions.digests.kind queue) (kind : SequenceKind) :
    scope.Demands (scope.withDigests digests) queue kind := by
  cases kind with
  | executions => exact hdemands
  | graphExecutions =>
      refine (Timeline.still_self _).demands (honly.rangesOf_eq_nil ?_)
      rw [hsound.digests_kind, hsound.graph_kind]
      decide

theorem demands_withGraphExecutions (hsound : scope.Sound limit)
    {graphExecutions : Timeline GraphExecution}
    (hdemands : scope.graphExecutions.Demands graphExecutions queue)
    (honly : Timeline.OnlyPages scope.graphExecutions.kind queue) (kind : SequenceKind) :
    scope.Demands { scope with graphExecutions } queue kind := by
  cases kind with
  | executions =>
      refine (Timeline.still_self _).demands (honly.rangesOf_eq_nil ?_)
      rw [hsound.digests_kind, hsound.graph_kind]
      decide
  | graphExecutions => exact hdemands

/-! ### Operations of the user -/

theorem demands_scroll (hsound : scope.Sound limit) (run : RunId) (other : SequenceKind)
    (step : ScrollStep) (kind : SequenceKind) :
    scope.Demands (scope.scroll run other step).1
      (Command.queueOf (scope.scroll run other step).2) kind := by
  cases other with
  | executions =>
      exact demands_withDigests hsound (Timeline.demands_scroll hsound.digests run step)
        (Timeline.onlyPages_scroll hsound.digests run step) kind
  | graphExecutions =>
      exact demands_withGraphExecutions hsound
        (Timeline.demands_scroll hsound.graphExecutions run step)
        (Timeline.onlyPages_scroll hsound.graphExecutions run step) kind

theorem demands_toggleAlerts (hsound : scope.Sound limit) (run : RunId) (alertType : AlertType)
    (kind : SequenceKind) :
    scope.Demands (scope.toggleAlerts run alertType).1
      (Command.queueOf (scope.toggleAlerts run alertType).2) kind := by
  have htoggled := (scope.quiet_toggled alertType).calm
  refine toggleAlerts_induct (motive := fun after queue => scope.Demands after queue kind)
    alertType (htoggled.demands kind) ?_ ?_
  · intro index
    exact htoggled.trans_demands
      (demands_scroll (hsound.withAlerts _) run .executions (.recenter index) kind)
  · intro moved queue hmoved
    exact hmoved.trans_calm (moved.quiet_requestAlerts run alertType).calm

theorem demands_operate (hsound : scope.Sound limit) (run : RunId) (operation : Operation)
    (kind : SequenceKind) :
    scope.Demands (scope.operate run operation).1
      (Command.queueOf (scope.operate run operation).2) kind := by
  cases operation with
  | refresh => exact (scope.quiet_refresh run).calm.demands kind
  | scroll other step => exact demands_scroll hsound run other step kind
  | focusByOffset other offset => exact (scope.quiet_focusByOffset other offset).calm.demands kind
  | toggleAlerts alertType => exact demands_toggleAlerts hsound run alertType kind
  | focusOp key => exact (scope.quiet_focusOp key).calm.demands kind
  | requestOp key => exact (scope.quiet_requestOp run key).calm.demands kind
  | requestFile file => exact (scope.quiet_requestFile run file).calm.demands kind

/-! ### Replies -/

theorem demands_numExecutions (hsound : scope.Sound limit) (run : RunId) (total now : Nat)
    (kind : SequenceKind) :
    scope.Demands (scope.onReply run now (.numExecutions total)).1
      (Command.queueOf ((scope.onReply run now (.numExecutions total)).2.map Prod.fst)) kind := by
  have hdigests := demands_withDigests hsound
    (Timeline.demands_onTotal hsound.digests run total now)
    (Timeline.onlyPages_onTotal hsound.digests run total now) kind
  refine numExecutions_induct (motive := fun after queue => scope.Demands after queue kind)
    now total hdigests ?_
  intro before queue htaken
  simpa using htaken.trans_calm (before.quiet_focusFirst total).calm

/-- Alerts may move the window to what the first of them points at. -/
theorem demands_alertsOfType (hsound : scope.Sound limit) (run : RunId) (now : Nat)
    (alertType : AlertType) (range : Interval) (tally : AlertTally) (alerts : List Alert)
    (kind : SequenceKind) :
    scope.Demands (scope.onReply run now (.alertsOfType alertType range tally alerts)).1
      (Command.queueOf
        ((scope.onReply run now (.alertsOfType alertType range tally alerts)).2.map Prod.fst))
      kind := by
  have hmerged : scope.Calm
      { scope with alerts := scope.alerts.merge alertType range tally alerts now } [] :=
    calm_of_eq rfl rfl pageless_nil
  refine alertsOfType_induct (motive := fun after queue => scope.Demands after queue kind)
    now alertType range tally alerts ?_ (hmerged.demands kind) ?_ ?_
  · exact Calm.demands (calm_of_eq rfl rfl pageless_nil) kind
  · intro index
    exact hmerged.trans_demands
      (demands_scroll (hsound.withAlerts _) run .executions (.recenter index) kind)
  · intro moved queue index hmoved
    simpa using hmoved.trans_calm (moved.quiet_focusGraphExecution (some index)).calm

/-- A reply to anything but a request for a page of the sequence. -/
theorem demands_onReply {recording : Recording} (hsound : scope.Sound recording.total)
    {request : Request} {reply : Reply} (hreplies : recording.Replies request reply)
    (hother : ∀ range, request ≠ .page kind range) (run : RunId) (now : Nat) :
    scope.Demands (scope.onReply run now reply).1
      (Command.queueOf ((scope.onReply run now reply).2.map Prod.fst)) kind := by
  by_cases htouches : ∀ touched, request.touches touched = false
  · obtain ⟨hcalm, hqueue⟩ := calm_onReply hreplies htouches scope run now
    rw [hqueue]
    exact hcalm.demands kind
  · cases hreplies with
    | numExecutions => exact demands_numExecutions hsound run _ now kind
    | numGraphExecutions =>
        exact demands_withGraphExecutions hsound
          (Timeline.demands_onTotal hsound.graphExecutions run _ now)
          (Timeline.onlyPages_onTotal hsound.graphExecutions run _ now) kind
    | executionDigests range =>
        -- the page of the one sequence does nothing to the other
        let batch := Archive.pageOf Execution.digest recording.executions range
        have hlimit : batch.total ≤ recording.total .executions := Nat.le_refl _
        have honly := Timeline.onlyPages_onPage hsound.digests hlimit run now
        cases kind with
        | executions => exact absurd rfl (hother range)
        | graphExecutions =>
            refine (Timeline.still_self scope.graphExecutions).demands (honly.rangesOf_eq_nil ?_)
            rw [hsound.graph_kind, hsound.digests_kind]
            decide
    | graphExecutions range =>
        let batch := Archive.pageOf id recording.graphExecutions range
        have hlimit : batch.total ≤ recording.total .graphExecutions := Nat.le_refl _
        have honly := Timeline.onlyPages_onPage hsound.graphExecutions hlimit run now
        cases kind with
        | executions =>
            refine (Timeline.still_self scope.executions.digests).demands
              (honly.rangesOf_eq_nil ?_)
            rw [hsound.graph_kind, hsound.digests_kind]
            decide
        | graphExecutions => exact absurd rfl (hother range)
    | numAlertsAndBreakdown => exact (scope.quiet_tally run now _).calm.demands kind
    | alertsOfType => exact demands_alertsOfType hsound run now _ _ _ _ kind
    | executionData | stackFrames | graphOpInfo | sourceFileList | sourceFile =>
        exact absurd (fun _ => rfl) htouches

/-- The failure of anything but a page of the sequence. -/
theorem demands_onFetchFailed (scope : RunScope) {request : Request}
    (hother : ∀ range, request ≠ .page kind range) :
    scope.Demands (scope.onFetchFailed request) [] kind := by
  by_cases hpageless : ∀ asked range, request ≠ .page asked range
  · exact (scope.quiet_onFetchFailed hpageless).calm.demands kind
  · push Not at hpageless
    obtain ⟨asked, range, rfl⟩ := hpageless
    cases kind with
    | executions =>
        cases asked with
        | executions => exact absurd rfl (hother range)
        | graphExecutions => exact (Timeline.still_self scope.executions.digests).demands rfl
    | graphExecutions =>
        cases asked with
        | executions => exact (Timeline.still_self scope.graphExecutions).demands rfl
        | graphExecutions => exact absurd rfl (hother range)

end RunScope

end TraceViewer
