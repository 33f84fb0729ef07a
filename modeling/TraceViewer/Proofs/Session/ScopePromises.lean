import TraceViewer.Proofs.Session.Holdings
import TraceViewer.Proofs.Session.ReplyMarks
import TraceViewer.Proofs.Session.TimelinePromises

/-!
# The promises of a scope

Every operation on the scope of a run does to each of the two sequences what the
timelines say: it asks for the window or is steady (`RunScope.Attends`).  Most operations
do not even touch the sequences and ask for no page (`RunScope.Calm`).  Those that ask
are the movements, the highlighting of alerts, and the replies; of the replies, a page
asks only when it brings a larger total, and those to requests that touch neither sequence
are calm (`calm_onReply`).
-/

namespace TraceViewer

/-- Whether the answer to a request can change a sequence or move its window. -/
def Request.touches (kind : SequenceKind) : Request → Bool
  | .page other _ => other = kind
  | .numExecutions | .numAlertsAndBreakdown | .alertsOfType _ _ => kind = .executions
  | .numGraphExecutions => kind = .graphExecutions
  | .executionData _ | .stackFrames _ | .graphOpInfo _ | .sourceFileList | .sourceFile _ => false

namespace RunScope

variable {limit : SequenceKind → Nat} {run : RunId} {scope before middle after : RunScope}
  {pending queue more : List PendingFetch}

/-- The pages that a queue holds for a scope bring nothing but promised items. -/
structure Fed (run : RunId) (pending : List PendingFetch) (scope : RunScope) : Prop where
  digests : scope.executions.digests.Fed run pending
  graphExecutions : scope.graphExecutions.Fed run pending

/-- What an operation does to the windows of a scope. -/
structure Attends (run : RunId) (pending : List PendingFetch) (before after : RunScope)
    (queue : List PendingFetch) : Prop where
  digests : before.executions.digests.Attends run pending after.executions.digests queue
  graphExecutions : before.graphExecutions.Attends run pending after.graphExecutions queue

theorem Calm.attends (hcalm : before.Calm after queue) (hfed : before.Fed run pending) :
    Attends run pending before after queue :=
  ⟨hcalm.digests.attends hfed.digests (hcalm.pageless run _),
    hcalm.graphExecutions.attends hfed.graphExecutions (hcalm.pageless run _)⟩

theorem Calm.fed (hcalm : before.Calm after queue) (hfed : before.Fed run pending) :
    after.Fed run pending :=
  ⟨hcalm.digests.fed hfed.digests, hcalm.graphExecutions.fed hfed.graphExecutions⟩

theorem Fed.of_subset (hfed : scope.Fed run more) (hsub : pending ⊆ more) :
    scope.Fed run pending :=
  ⟨hfed.digests.of_subset hsub, hfed.graphExecutions.of_subset hsub⟩

theorem Calm.trans_attends (hcalm : before.Calm middle [])
    (hattends : middle.Attends run pending after queue) :
    Attends run pending before after queue :=
  ⟨hcalm.digests.trans_attends hattends.digests,
    hcalm.graphExecutions.trans_attends hattends.graphExecutions⟩

theorem Attends.trans_calm (hattends : Attends run pending before middle queue)
    (hcalm : middle.Calm after more) : Attends run pending before after (queue ++ more) :=
  ⟨hattends.digests.trans_still hcalm.digests (hcalm.pageless run _),
    hattends.graphExecutions.trans_still hcalm.graphExecutions (hcalm.pageless run _)⟩

/-- An operation on the digests. -/
theorem attends_withDigests (hsound : scope.Sound limit) (hfed : scope.Fed run pending)
    {digests : Timeline ExecutionDigest}
    (hdigests : scope.executions.digests.Attends run pending digests queue ∧
      Timeline.OnlyPages scope.executions.digests.kind queue) :
    scope.Attends run pending (scope.withDigests digests) queue := by
  obtain ⟨hattends, honly⟩ := hdigests
  -- pages of the other sequence are neither answered nor asked for
  have hother : scope.graphExecutions.kind ≠ scope.executions.digests.kind := by
    rw [hsound.digests_kind, hsound.graph_kind]
    decide
  have hstill : scope.graphExecutions.Still scope.graphExecutions := ⟨rfl, rfl, rfl⟩
  exact ⟨hattends, hstill.attends hfed.graphExecutions (honly.not_mem hother)⟩

/-- An operation on the executions inside graphs. -/
theorem attends_withGraphExecutions (hsound : scope.Sound limit) (hfed : scope.Fed run pending)
    {graphExecutions : Timeline GraphExecution}
    (hgraph : scope.graphExecutions.Attends run pending graphExecutions queue ∧
      Timeline.OnlyPages scope.graphExecutions.kind queue) :
    scope.Attends run pending { scope with graphExecutions } queue := by
  obtain ⟨hattends, honly⟩ := hgraph
  have hother : scope.executions.digests.kind ≠ scope.graphExecutions.kind := by
    rw [hsound.digests_kind, hsound.graph_kind]
    decide
  have hstill : scope.executions.digests.Still scope.executions.digests := ⟨rfl, rfl, rfl⟩
  exact ⟨hstill.attends hfed.digests (honly.not_mem hother), hattends⟩

/-! ## The two windows -/

/-- The slots of a window that the sequence has. -/
def visibleRange (scope : RunScope) : SequenceKind → Interval
  | .executions => scope.executions.digests.view.visibleRange
  | .graphExecutions => scope.graphExecutions.view.visibleRange

/-- Whether an item of a sequence is held. -/
def Holds (scope : RunScope) : SequenceKind → Nat → Prop
  | .executions => (· ∈ scope.executions.digests.items)
  | .graphExecutions => (· ∈ scope.graphExecutions.items)

/-- Whether an item of a sequence is held or on its way. -/
def Promises (scope : RunScope) : SequenceKind → Nat → Prop
  | .executions => scope.executions.digests.view.sequence.Promises
  | .graphExecutions => scope.graphExecutions.view.sequence.Promises

/-- Whether an item is missing, and its page is being fetched, but not far enough. -/
def FallsShort (scope : RunScope) : SequenceKind → Nat → Prop
  | .executions => scope.executions.digests.view.sequence.FallsShort
  | .graphExecutions => scope.graphExecutions.view.sequence.FallsShort

/-- Whether every empty slot of a window lies in a page that is being fetched. -/
def Covered (scope : RunScope) : SequenceKind → Prop
  | .executions => scope.executions.digests.Covered
  | .graphExecutions => scope.graphExecutions.Covered

/-- Whether a window and the promises of its sequence are as before. -/
def Steady (before after : RunScope) : SequenceKind → Prop
  | .executions => before.executions.digests.Steady after.executions.digests
  | .graphExecutions => before.graphExecutions.Steady after.graphExecutions

theorem steady_self (scope : RunScope) (kind : SequenceKind) : scope.Steady scope kind := by
  cases kind <;> exact Timeline.steady_self _

theorem Steady.trans {kind : SequenceKind} (hfirst : before.Steady middle kind)
    (hsecond : middle.Steady after kind) : before.Steady after kind := by
  cases kind with
  | executions => exact Timeline.Steady.trans hfirst hsecond
  | graphExecutions => exact Timeline.Steady.trans hfirst hsecond

theorem Steady.visibleRange_eq {kind : SequenceKind} (hsteady : before.Steady after kind) :
    after.visibleRange kind = before.visibleRange kind := by
  cases kind with
  | executions => exact Timeline.Steady.visibleRange_eq hsteady
  | graphExecutions => exact Timeline.Steady.visibleRange_eq hsteady

theorem Steady.promises_iff {kind : SequenceKind} (hsteady : before.Steady after kind)
    (index : Nat) : after.Promises kind index ↔ before.Promises kind index := by
  cases kind with
  | executions => exact Timeline.Steady.promises_iff hsteady index
  | graphExecutions => exact Timeline.Steady.promises_iff hsteady index

theorem Calm.steady (hcalm : before.Calm after queue) (kind : SequenceKind) :
    before.Steady after kind := by
  cases kind with
  | executions => exact hcalm.digests.steady
  | graphExecutions => exact hcalm.graphExecutions.steady

theorem Calm.covered (hcalm : before.Calm after queue) {kind : SequenceKind}
    (hcovered : before.Covered kind) : after.Covered kind := by
  cases kind with
  | executions => exact hcalm.digests.covered hcovered
  | graphExecutions => exact hcalm.graphExecutions.covered hcovered

theorem Attends.fed (hattends : Attends run pending before after queue) :
    after.Fed run (pending ++ queue) :=
  ⟨hattends.digests.fed, hattends.graphExecutions.fed⟩

theorem Attends.covered_or (hattends : Attends run pending before after queue)
    (kind : SequenceKind) : after.Covered kind ∨ before.Steady after kind := by
  cases kind with
  | executions => exact hattends.digests.covered_or
  | graphExecutions => exact hattends.graphExecutions.covered_or

theorem covered_of_numItems_eq_zero {kind : SequenceKind} (hempty : scope.numItems kind = 0) :
    scope.Covered kind := by
  cases kind with
  | executions => exact Timeline.covered_of_numItems_eq_zero hempty
  | graphExecutions => exact Timeline.covered_of_numItems_eq_zero hempty

theorem not_promises_iff_of_covered {kind : SequenceKind} (hcovered : scope.Covered kind)
    {index : Nat} (hindex : index ∈ scope.visibleRange kind) :
    ¬ scope.Promises kind index ↔ scope.FallsShort kind index := by
  cases kind with
  | executions => exact PagedSequence.not_promises_iff_of_covers hcovered hindex
  | graphExecutions => exact PagedSequence.not_promises_iff_of_covers hcovered hindex

theorem not_promises_of_fallsShort {kind : SequenceKind} {index : Nat}
    (hshort : scope.FallsShort kind index) : ¬ scope.Promises kind index := by
  cases kind with
  | executions => exact PagedSequence.not_promises_of_fallsShort hshort
  | graphExecutions => exact PagedSequence.not_promises_of_fallsShort hshort

/-- In a scope that waits for nothing, only what is held is promised. -/
theorem promises_iff_of_not_marked (hnone : ∀ mark, ¬ scope.Marked mark) (kind : SequenceKind)
    (index : Nat) : scope.Promises kind index ↔ scope.Holds kind index := by
  cases kind with
  | executions =>
      refine PagedSequence.promises_iff_of_no_marks fun page requestedEnd hmark => ?_
      exact hnone (.sequence .executions (.page _ requestedEnd)) ⟨page, hmark, rfl⟩
  | graphExecutions =>
      refine PagedSequence.promises_iff_of_no_marks fun page requestedEnd hmark => ?_
      exact hnone (.sequence .graphExecutions (.page _ requestedEnd)) ⟨page, hmark, rfl⟩

theorem fed_fresh (config : Config) (valid : config.Valid)
    (hnone : ∀ kind range, .data run (.page kind range) ∉ pending) :
    (fresh config valid).Fed run pending :=
  ⟨Timeline.fed_fresh _ _ _ (hnone .executions), Timeline.fed_fresh _ _ _ (hnone .graphExecutions)⟩

theorem numItems_of_calm (hcalm : before.Calm after queue) (kind : SequenceKind) :
    after.numItems kind = before.numItems kind := by
  cases kind with
  | executions => exact congrArg PagedSequence.numItems hcalm.digests.sequence_eq
  | graphExecutions => exact congrArg PagedSequence.numItems hcalm.graphExecutions.sequence_eq

/-! ## Operations of the user -/

theorem attends_scroll (hsound : scope.Sound limit) (hfed : scope.Fed run pending)
    (kind : SequenceKind) (step : ScrollStep) :
    scope.Attends run pending (scope.scroll run kind step).1
      (Command.queueOf (scope.scroll run kind step).2) := by
  cases kind with
  | executions =>
      exact attends_withDigests hsound hfed
        (Timeline.attends_scroll hsound.digests hfed.digests step)
  | graphExecutions =>
      exact attends_withGraphExecutions hsound hfed
        (Timeline.attends_scroll hsound.graphExecutions hfed.graphExecutions step)

theorem attends_toggleAlerts (hsound : scope.Sound limit) (hfed : scope.Fed run pending)
    (alertType : AlertType) :
    scope.Attends run pending (scope.toggleAlerts run alertType).1
      (Command.queueOf (scope.toggleAlerts run alertType).2) := by
  have htoggled := (scope.quiet_toggled alertType).calm
  refine toggleAlerts_induct (motive := scope.Attends run pending)
    alertType (htoggled.attends hfed) ?_ ?_
  · intro index
    exact htoggled.trans_attends (attends_scroll (hsound.withAlerts _) (htoggled.fed hfed)
      .executions (.recenter index))
  · intro moved queue hmoved
    exact hmoved.trans_calm (moved.quiet_requestAlerts run alertType).calm

theorem attends_operate (hsound : scope.Sound limit) (hfed : scope.Fed run pending)
    (operation : Operation) :
    scope.Attends run pending (scope.operate run operation).1
      (Command.queueOf (scope.operate run operation).2) := by
  cases operation with
  | refresh => exact (scope.quiet_refresh run).calm.attends hfed
  | scroll kind step => exact attends_scroll hsound hfed kind step
  | focusByOffset kind offset => exact (scope.quiet_focusByOffset kind offset).calm.attends hfed
  | toggleAlerts alertType => exact attends_toggleAlerts hsound hfed alertType
  | focusOp key => exact (scope.quiet_focusOp key).calm.attends hfed
  | requestOp key => exact (scope.quiet_requestOp run key).calm.attends hfed
  | requestFile file => exact (scope.quiet_requestFile run file).calm.attends hfed

/-! ## Replies -/

theorem attends_numExecutions (hsound : scope.Sound limit) (hfed : scope.Fed run pending)
    (total now : Nat) :
    scope.Attends run pending (scope.onReply run now (.numExecutions total)).1
      (Command.queueOf ((scope.onReply run now (.numExecutions total)).2.map Prod.fst)) := by
  have hdigests := attends_withDigests hsound hfed
    (Timeline.attends_onTotal hsound.digests hfed.digests total now)
  refine numExecutions_induct (motive := scope.Attends run pending)
    now total hdigests ?_
  intro before queue htaken
  simpa using htaken.trans_calm (before.quiet_focusFirst total).calm

/-- Alerts may move the window to what the first of them points at. -/
theorem attends_alertsOfType (hsound : scope.Sound limit) (hfed : scope.Fed run pending)
    (now : Nat) (alertType : AlertType) (range : Interval) (tally : AlertTally)
    (alerts : List Alert) :
    scope.Attends run pending
      (scope.onReply run now (.alertsOfType alertType range tally alerts)).1
      (Command.queueOf
        ((scope.onReply run now (.alertsOfType alertType range tally alerts)).2.map Prod.fst)) := by
  -- taking the alerts in does not touch the sequences, so a refused batch does not either
  have hmerged : scope.Calm
      { scope with alerts := scope.alerts.merge alertType range tally alerts now } [] :=
    calm_of_eq rfl rfl pageless_nil
  refine alertsOfType_induct (motive := scope.Attends run pending)
    now alertType range tally alerts ?_ (hmerged.attends hfed) ?_ ?_
  · exact Calm.attends (calm_of_eq rfl rfl pageless_nil) hfed
  · intro index
    exact hmerged.trans_attends (attends_scroll (hsound.withAlerts _) (hmerged.fed hfed)
      .executions (.recenter index))
  · intro moved queue index hmoved
    simpa using hmoved.trans_calm (moved.quiet_focusGraphExecution (some index)).calm

/-- A reply to a request that touches neither sequence leaves both, and asks for nothing. -/
theorem calm_onReply {recording : Recording} {request : Request} {reply : Reply}
    (hreplies : recording.Replies request reply) (hrequest : ∀ kind, request.touches kind = false)
    (scope : RunScope) (run : RunId) (now : Nat) :
    scope.Calm (scope.onReply run now reply).1 [] ∧
      Command.queueOf ((scope.onReply run now reply).2.map Prod.fst) = [] := by
  cases hreplies with
  | numExecutions => cases hrequest .executions
  | numGraphExecutions => cases hrequest .graphExecutions
  | executionDigests => cases hrequest .executions
  | graphExecutions => cases hrequest .graphExecutions
  | @executionData range records _ =>
      have hdigests := (onRecords_spec scope.executions range records).1
      refine ⟨calm_of_eq hdigests rfl pageless_nil, ?_⟩
      rw [onReply]
      rcases scope.executions.onRecords range records with ⟨executions, error | _⟩ <;> rfl
  | stackFrames => exact ⟨calm_of_eq rfl rfl pageless_nil, rfl⟩
  | @graphOpInfo key op _ =>
      refine ⟨calm_of_eq rfl rfl pageless_nil, ?_⟩
      rw [onReply]
      dsimp only
      rcases scope.ops.onLoaded _ with ⟨ops, error | _⟩ <;> rfl
  | sourceFileList => exact ⟨calm_of_eq rfl rfl pageless_nil, rfl⟩
  | @sourceFile file lines _ =>
      rw [onReply]
      rcases scope.sources.onFileLoaded file lines with error | sources
      · exact ⟨scope.calm_self, rfl⟩
      · exact ⟨calm_of_eq rfl rfl pageless_nil, rfl⟩
  | numAlertsAndBreakdown => cases hrequest .executions
  | alertsOfType => cases hrequest .executions

/-- What the reply of a recording to a pending request does to the windows. -/
theorem attends_onReply {recording : Recording} (hsound : scope.Sound recording.total)
    (hfed : scope.Fed run pending) {request : Request} {reply : Reply}
    (hreplies : recording.Replies request reply) (hpending : .data run request ∈ pending)
    (now : Nat) :
    scope.Attends run pending (scope.onReply run now reply).1
      (Command.queueOf ((scope.onReply run now reply).2.map Prod.fst)) := by
  by_cases htouches : ∀ kind, request.touches kind = false
  · obtain ⟨hcalm, hqueue⟩ := calm_onReply hreplies htouches scope run now
    rw [hqueue]
    exact hcalm.attends hfed
  · cases hreplies with
    | numExecutions => exact attends_numExecutions hsound hfed _ now
    | numGraphExecutions =>
        exact attends_withGraphExecutions hsound hfed
          (Timeline.attends_onTotal hsound.graphExecutions hfed.graphExecutions _ now)
    | executionDigests range =>
        rw [← hsound.digests_kind] at hpending
        obtain ⟨hrange, haccepts⟩ := Timeline.accepts_pageOf_asked hfed.digests hpending
          Execution.digest hsound.digests.numItems_le
        rw [← hrange] at hpending
        exact attends_withDigests hsound hfed (Timeline.attends_onPage hsound.digests
          hfed.digests haccepts hpending (Nat.le_refl _) now)
    | graphExecutions range =>
        rw [← hsound.graph_kind] at hpending
        obtain ⟨hrange, haccepts⟩ := Timeline.accepts_pageOf_asked hfed.graphExecutions hpending
          id hsound.graphExecutions.numItems_le
        rw [← hrange] at hpending
        exact attends_withGraphExecutions hsound hfed (Timeline.attends_onPage
          hsound.graphExecutions hfed.graphExecutions haccepts hpending (Nat.le_refl _) now)
    | numAlertsAndBreakdown => exact (scope.quiet_tally run now _).calm.attends hfed
    | alertsOfType => exact attends_alertsOfType hsound hfed now _ _ _ _
    | executionData | stackFrames | graphOpInfo | sourceFileList | sourceFile =>
        exact absurd (fun _ => rfl) htouches

end RunScope

end TraceViewer
