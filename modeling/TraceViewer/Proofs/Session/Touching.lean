import TraceViewer.Proofs.Session.Assurance
import TraceViewer.Proofs.Session.Requests
import TraceViewer.Proofs.Session.ScopePromises

/-!
# What touches a sequence

A request *touches* a sequence when its answer can change the sequence or move its window:
the requests for its total and for its pages, and for the top-level executions those for
the alerts, which lead to a jump of the window.

An answer to any other request leaves the sequence as it is and asks for nothing that
touches it (`untouched_onReply`), and so does settling (`untouched_settle`).  So the two
sequences, and the records, frames, ops and files beside them, can be looked at one by one.
-/

namespace TraceViewer

/-- Whether a fetch is for a run and touches a sequence of it. -/
def PendingFetch.touches (run : RunId) (kind : SequenceKind) : PendingFetch → Bool
  | .runs => false
  | .data other request => other = run ∧ request.touches kind = true

/-- Whether a queue holds nothing that touches a sequence of a run. -/
def Untouching (run : RunId) (kind : SequenceKind) (queue : List PendingFetch) : Prop :=
  ∀ fetch ∈ queue, fetch.touches run kind = false

section Queues

variable {run : RunId} {kind : SequenceKind} {first second queue : List PendingFetch}

theorem untouching_nil : Untouching run kind [] := by
  rintro fetch ⟨⟩

theorem Untouching.append (hfirst : Untouching run kind first)
    (hsecond : Untouching run kind second) : Untouching run kind (first ++ second) := by
  intro fetch hmem
  exact (List.mem_append.mp hmem).elim (hfirst fetch) (hsecond fetch)

theorem untouching_fetch {request : Request} (hrequest : request.touches kind = false)
    (other : RunId) : Untouching run kind [.data other request] := by
  intro fetch hmem
  rw [List.mem_singleton.mp hmem]
  simp [PendingFetch.touches, hrequest]

theorem Timeline.OnlyPages.untouching {other : SequenceKind}
    (honly : Timeline.OnlyPages other queue) (hne : other ≠ kind) :
    Untouching run kind queue := by
  intro fetch hmem
  obtain ⟨asked, range, rfl⟩ := honly fetch hmem
  simp [PendingFetch.touches, Request.touches, hne]

end Queues

namespace RunScope

variable {limit : SequenceKind → Nat} {run : RunId} {kind : SequenceKind}
  {scope before middle after : RunScope} {pending queue more : List PendingFetch}

/-- Whether nothing of a sequence is different but its focus and how far loading has
come. -/
def Still (before after : RunScope) : SequenceKind → Prop
  | .executions => before.executions.digests.Still after.executions.digests
  | .graphExecutions => before.graphExecutions.Still after.graphExecutions

/-- A step leaves a sequence as it is and asks for nothing that touches it. -/
structure Untouched (run : RunId) (kind : SequenceKind) (before after : RunScope)
    (queue : List PendingFetch) : Prop where
  still : before.Still after kind
  untouching : Untouching run kind queue

theorem Still.trans (hfirst : before.Still middle kind) (hsecond : middle.Still after kind) :
    before.Still after kind := by
  cases kind with
  | executions => exact Timeline.Still.trans hfirst hsecond
  | graphExecutions => exact Timeline.Still.trans hfirst hsecond

theorem Calm.still (hcalm : before.Calm after queue) (kind : SequenceKind) :
    before.Still after kind := by
  cases kind with
  | executions => exact hcalm.digests
  | graphExecutions => exact hcalm.graphExecutions

/-! ## Settling -/

/-- What the focus is missing touches neither sequence. -/
theorem untouched_settle (hsound : scope.Sound limit) (run other : RunId) (sticky : Bool) :
    scope.Untouched run kind (scope.settle other sticky).1 (scope.settle other sticky).2.queue := by
  refine ⟨(scope.quiet_settle other sticky).calm.still kind, fun fetch hmem => ?_⟩
  obtain ⟨request, rfl, hfocal⟩ := mem_queue_settle hsound hmem
  have huntouching : request.touches kind = false := by
    cases request <;> first | rfl | exact hfocal.elim
  simp [PendingFetch.touches, huntouching]

/-! ## Replies -/

theorem untouching_scroll (hsound : scope.Sound limit) (hfed : scope.Fed run pending)
    {other : SequenceKind} (hne : other ≠ kind) (step : ScrollStep) :
    Untouching run kind (Command.queueOf (scope.scroll run other step).2) := by
  cases other with
  | executions =>
      have honly := (Timeline.attends_scroll hsound.digests hfed.digests step).2
      rw [hsound.digests_kind] at honly
      exact honly.untouching hne
  | graphExecutions =>
      have honly := (Timeline.attends_scroll hsound.graphExecutions hfed.graphExecutions step).2
      rw [hsound.graph_kind] at honly
      exact honly.untouching hne

theorem untouched_numExecutions (hsound : scope.Sound limit) (hfed : scope.Fed run pending)
    (total now : Nat) :
    scope.Untouched run .graphExecutions (scope.onReply run now (.numExecutions total)).1
      (Command.queueOf ((scope.onReply run now (.numExecutions total)).2.map Prod.fst)) := by
  have honly := (Timeline.attends_onTotal hsound.digests hfed.digests total now).2
  rw [hsound.digests_kind] at honly
  refine numExecutions_induct (motive := scope.Untouched run .graphExecutions) now total ?_ ?_
  · exact ⟨Timeline.still_self _, honly.untouching (by decide)⟩
  · intro before queue htaken
    exact ⟨htaken.still.trans ((before.quiet_focusFirst total).calm.still _), htaken.untouching⟩

theorem untouched_alertsOfType (hsound : scope.Sound limit) (hfed : scope.Fed run pending)
    (now : Nat) (alertType : AlertType) (range : Interval) (tally : AlertTally)
    (alerts : List Alert) :
    scope.Untouched run .graphExecutions
      (scope.onReply run now (.alertsOfType alertType range tally alerts)).1
      (Command.queueOf
        ((scope.onReply run now (.alertsOfType alertType range tally alerts)).2.map Prod.fst)) := by
  have hleft : ∀ alerts, scope.Untouched run .graphExecutions { scope with alerts } [] :=
    fun _ => ⟨Timeline.still_self _, untouching_nil⟩
  refine alertsOfType_induct (motive := scope.Untouched run .graphExecutions)
    now alertType range tally alerts (hleft _) (hleft _) ?_ ?_
  · intro index
    -- the jump moves the window of the executions, and of the graph only the focus
    have hmerged : scope.Calm
        { scope with alerts := scope.alerts.merge alertType range tally alerts now } [] :=
      calm_of_eq rfl rfl pageless_nil
    exact ⟨Timeline.still_self scope.graphExecutions,
      untouching_scroll (hsound.withAlerts _) (hmerged.fed hfed) (by decide) _⟩
  · intro moved queue index hmoved
    exact ⟨hmoved.still.trans ((moved.quiet_focusGraphExecution (some index)).calm.still _),
      hmoved.untouching⟩

/-- The tally may lead to a request for the highlighted alerts. -/
theorem untouching_requestFocusedAlerts (scope : RunScope) (run other : RunId) :
    Untouching run .graphExecutions (scope.requestFocusedAlerts other).2.queue := by
  rw [requestFocusedAlerts]
  split
  · exact untouching_nil
  · rw [requestAlerts]
    rcases scope.alerts.requestType _ with ⟨alerts, _ | range⟩
    · exact untouching_nil
    · exact untouching_fetch rfl other

/-- A reply to a request that does not touch a sequence. -/
theorem untouched_onReply {recording : Recording} (hsound : scope.Sound recording.total)
    (hfed : scope.Fed run pending) {request : Request} {reply : Reply}
    (hreplies : recording.Replies request reply) (hpending : .data run request ∈ pending)
    (hrequest : request.touches kind = false) (now : Nat) :
    scope.Untouched run kind (scope.onReply run now reply).1
      (Command.queueOf ((scope.onReply run now reply).2.map Prod.fst)) := by
  by_cases hneither : ∀ kind, request.touches kind = false
  · obtain ⟨hcalm, hqueue⟩ := calm_onReply hreplies hneither scope run now
    rw [hqueue]
    exact ⟨hcalm.still kind, untouching_nil⟩
  · cases hreplies with
    | numExecutions =>
        cases kind with
        | executions => cases hrequest
        | graphExecutions => exact untouched_numExecutions hsound hfed _ now
    | numGraphExecutions =>
        cases kind with
        | executions =>
            -- whatever the window asks for is a page of its own sequence
            have honly := (Timeline.attends_onTotal hsound.graphExecutions hfed.graphExecutions
              recording.graphExecutions.length now).2
            rw [hsound.graph_kind] at honly
            exact ⟨Timeline.still_self _, honly.untouching (by decide)⟩
        | graphExecutions => cases hrequest
    | executionDigests range =>
        cases kind with
        | executions => cases hrequest
        | graphExecutions =>
            rw [← hsound.digests_kind] at hpending
            obtain ⟨hrange, haccepts⟩ := Timeline.accepts_pageOf_asked hfed.digests hpending
              Execution.digest hsound.digests.numItems_le
            rw [← hrange] at hpending
            have honly := (Timeline.attends_onPage hsound.digests hfed.digests haccepts hpending
              (Nat.le_refl _) now).2
            rw [hsound.digests_kind] at honly
            exact ⟨Timeline.still_self _, honly.untouching (by decide)⟩
    | graphExecutions range =>
        cases kind with
        | executions =>
            rw [← hsound.graph_kind] at hpending
            obtain ⟨hrange, haccepts⟩ := Timeline.accepts_pageOf_asked hfed.graphExecutions hpending
              id hsound.graphExecutions.numItems_le
            rw [← hrange] at hpending
            have honly := (Timeline.attends_onPage hsound.graphExecutions hfed.graphExecutions
              haccepts hpending (Nat.le_refl _) now).2
            rw [hsound.graph_kind] at honly
            exact ⟨Timeline.still_self _, honly.untouching (by decide)⟩
        | graphExecutions => cases hrequest
    | numAlertsAndBreakdown =>
        cases kind with
        | executions => cases hrequest
        | graphExecutions =>
            exact ⟨(scope.quiet_tally run now recording.tally).calm.graphExecutions,
              untouching_requestFocusedAlerts _ run run⟩
    | alertsOfType =>
        cases kind with
        | executions => cases hrequest
        | graphExecutions => exact untouched_alertsOfType hsound hfed now _ _ _ _
    | _ => exact absurd (fun _ => rfl) hneither

end RunScope

end TraceViewer
