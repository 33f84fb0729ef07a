import TraceViewer.Proofs.Session.Refusals
import TraceViewer.Proofs.Session.WholePages

/-!
# The record of the origin

Settling sees to it that the record of the focused execution is held or on its way
(`RunScope.RecordSought`, `sought_settle`).  Between two times that a session settles only
two kinds of events can happen, and neither loses the record.

* A failure takes the mark of the record only when the request for the record itself
  failed; but such a request is proper, so an archive that is online answers it.
* A reply that is refused takes the mark only when it brings records; but those that an
  archive replies fill their range, so they are not refused.
-/

namespace TraceViewer

/-- The records that a recording replies fill their range. -/
theorem Archive.length_recordsIn {recording : Recording} {range : Interval}
    {records : List Execution} (hrecords : recordsIn recording range = .ok records) :
    range.start ≤ range.stop ∧ records.length = range.length := by
  rw [recordsIn] at hrecords
  split_ifs at hrecords with houtside
  cases hrecords
  rw [Interval.length, List.length_take, List.length_drop]
  omega

namespace RunScope

variable {scope before after : RunScope} {run : RunId}

/-- The record of the focused execution is held or being fetched, when its call stack is
followed and there is such an execution. -/
def RecordSought (scope : RunScope) : Prop :=
  ∀ ⦃index : Nat⦄, scope.focusOrigin = some (.execution index) →
    index < scope.numItems .executions →
      index ∈ scope.executions.records ∨ index ∈ scope.executions.recordsInFlight

/-! ## Settling -/

theorem sought_requestOrigin (scope : RunScope) (run : RunId) :
    (scope.requestOrigin run).1.RecordSought := by
  obtain ⟨_, _, hrequested⟩ := scope.requestOrigin_eq run
  have horigin : (scope.requestOrigin run).1.focusOrigin = scope.focusOrigin := by
    rw [hrequested]
    rfl
  intro index hindex hlt
  rw [horigin] at hindex
  rw [requestOrigin, hindex] at hlt ⊢
  dsimp only at hlt ⊢
  rw [ExecutionTimeline.requestRecord] at hlt ⊢
  split_ifs at hlt ⊢ with hneedless
  · exact hneedless.resolve_left (Nat.not_le_of_lt hlt)
  · exact Or.inr Std.ExtTreeSet.mem_insert_self

theorem sought_settle (scope : RunScope) (run : RunId) (sticky : Bool) :
    (scope.settle run sticky).1.RecordSought := by
  obtain ⟨_, _, _, hsettled⟩ := scope.settle_after_origin run sticky
  -- the later steps write neither to the executions nor to the focus
  rw [hsettled]
  exact scope.sought_requestOrigin run

/-! ## Refusals and failures -/

/-- Only records take the marks of records. -/
theorem recordsInFlight_onReply (scope : RunScope) (run : RunId) (now : Nat) {reply : Reply}
    (hreply : ∀ range records, reply ≠ .executionData range records) :
    (scope.onReply run now reply).1.executions.recordsInFlight =
      scope.executions.recordsInFlight := by
  cases reply with
  | numExecutions total =>
      refine numExecutions_induct (motive := fun after _ =>
        after.executions.recordsInFlight = scope.executions.recordsInFlight) now total rfl ?_
      intro before _ htaken
      rw [focusFirst]
      split_ifs <;> exact htaken
  | executionData range records => exact absurd rfl (hreply range records)
  | sourceFile file lines =>
      rw [onReply]
      rcases scope.sources.onFileLoaded file lines with error | sources <;> rfl
  | numAlertsAndBreakdown tally =>
      change (requestFocusedAlerts _ run).1.executions.recordsInFlight = _
      rw [requestFocusedAlerts]
      split <;> rfl
  | alertsOfType alertType range tally alerts =>
      refine alertsOfType_induct (motive := fun after _ =>
        after.executions.recordsInFlight = scope.executions.recordsInFlight)
        now alertType range tally alerts rfl rfl ?_ fun _ _ _ hmoved => hmoved
      intro index
      rfl
  | _ => rfl

/-- The records that a recording replies are not refused. -/
theorem records_accepted {recording : Recording} {range : Interval} {records : List Execution}
    (hrecords : Archive.recordsIn recording range = .ok records) {now : Nat} {error : ViewError} :
    scope.onReply run now (.executionData range records) ≠ (after, .error error) := by
  obtain ⟨hle, hlength⟩ := Archive.length_recordsIn hrecords
  have hfits : ¬ (range.stop < range.start ∨ records.length ≠ range.length) :=
    not_or.mpr ⟨Nat.not_lt_of_le hle, not_not.mpr hlength⟩
  rw [onReply, ExecutionTimeline.onRecords]
  dsimp only
  rw [if_neg hfits]
  rintro ⟨⟩

/-- A refused reply other than records. -/
theorem sought_of_refused (hvalid : ∀ kind, (scope.geometry kind).Valid)
    (hsought : scope.RecordSought) {reply : Reply}
    (hreply : ∀ range records, reply ≠ .executionData range records) {now : Nat}
    {error : ViewError} (hrefused : scope.onReply run now reply = (after, .error error)) :
    after.RecordSought := by
  have hintact := intact_onReply hvalid hrefused
  have hmarks := scope.recordsInFlight_onReply run now hreply
  rw [hrefused] at hmarks
  have horigin : after.focusOrigin = scope.focusOrigin := by
    simp only [focusOrigin, Timeline.focus, hintact.location_eq, hintact.digests.window_eq,
      hintact.ops_eq]
  have htotal : after.numItems .executions = scope.numItems .executions :=
    hintact.digests.sequence.numItems_eq
  intro index hindex hlt
  rw [horigin] at hindex
  rw [htotal] at hlt
  rw [hintact.records_eq, hmarks]
  exact hsought hindex hlt

/-- A failure other than for records. -/
theorem sought_onFetchFailed (hsought : scope.RecordSought) {request : Request}
    (hrequest : ∀ range, request ≠ .executionData range) :
    (scope.onFetchFailed request).RecordSought := by
  intro index hindex hlt
  cases request with
  | page kind range => cases kind <;> exact hsought hindex hlt
  | executionData range => exact absurd rfl (hrequest range)
  | graphOpInfo key =>
      refine hsought ?_ hlt
      obtain ⟨phases, hfailed⟩ := scope.ops.updatePhase_eq key .failed
      rw [← hindex, onFetchFailed, OpStore.onFailed, hfailed]
      rfl
  | _ => exact hsought hindex hlt

end RunScope

/-! ## Sessions -/

/-- An archive that is online answers a proper request for records. -/
theorem Archive.outcomeOf_records {archive : Archive} (honline : archive.offline = false)
    {run : RunId} {range : Interval} (hlt : range.start < range.stop)
    (hstop : range.stop ≤ (archive.recordingOf run).total .executions) :
    ∃ records, Simulation.outcomeOf archive (.data run (.executionData range)) =
      .loaded run (.executionData range records) := by
  have hrun : run ∈ archive.runs :=
    mem_runs_of_total_pos (Nat.lt_of_lt_of_le (Nat.zero_lt_of_lt hlt) hstop)
  have hinside : ¬ (range.stop < range.start ∨
      (archive.recordingOf run).executions.length < range.stop) :=
    not_or.mpr ⟨Nat.not_lt_of_lt hlt, Nat.not_lt_of_le hstop⟩
  refine ⟨((archive.recordingOf run).executions.drop range.start).take range.length,
    outcomeOf_of_answer honline hrun ?_⟩
  rw [answer, recordsIn, if_neg hinside]
  rfl

namespace Session

variable {archive : Archive} {session : Session} {run : RunId}

theorem sought_settle (hactive : session.activeRun = some run) :
    session.settle.1.scope.RecordSought := by
  rw [settle_of_some hactive]
  exact session.scope.sought_settle run session.stickyFocus

/-- The answer of an archive that is online to a proper fetch within a run. -/
theorem sought_apply (honline : archive.offline = false) (hshaped : session.Shaped)
    (hactive : session.activeRun = some run) (hsought : session.scope.RecordSought)
    {other : RunId} {request : Request}
    (hproper : request.Proper session.config.geometry (archive.recordingOf other).total)
    (now : Nat) :
    RunScope.RecordSought
      (session.apply (Simulation.outcomeOf archive (.data other request)) now).1.scope := by
  have hstays := session.activeRun_reduce_data archive other request now
  rcases archive.outcomeOf_data other request with ⟨reply, hreplies, houtcome⟩ | houtcome
  · rw [houtcome] at hstays ⊢
    rcases hreduced : session.reduce now (.loaded other reply) with ⟨reduced, error | command⟩
    · rw [apply_of_error hreduced]
      rw [reduce, onLoaded] at hreduced
      split_ifs at hreduced
      · rcases hreply : session.scope.onReply other now reply with
          ⟨scope, error | ⟨command, grew⟩⟩ <;> rw [hreply] at hreduced <;> cases hreduced
        refine RunScope.sought_of_refused hshaped.valid hsought ?_ hreply
        rintro range records rfl
        cases hreplies with
        | executionData hrecords => exact RunScope.records_accepted hrecords hreply
      · cases hreduced
    · rw [hreduced] at hstays
      rw [apply_of_ok hreduced rfl]
      exact sought_settle (hstays.trans hactive)
  · rw [houtcome, apply_of_failure rfl, reduce, onFetchFailed]
    split_ifs
    · refine RunScope.sought_onFetchFailed hsought ?_
      rintro range rfl
      obtain ⟨records, hanswered⟩ := Archive.outcomeOf_records honline hproper.1 hproper.2
      cases houtcome.symm.trans hanswered
    · exact hsought

end Session

end TraceViewer
