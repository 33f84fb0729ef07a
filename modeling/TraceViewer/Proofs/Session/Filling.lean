import TraceViewer.Proofs.Session.ScopeEffort
import TraceViewer.Proofs.Session.Touching
import TraceViewer.Proofs.Simulation.Backing

/-!
# How a window fills

When fetches are answered in the order in which they were asked for, the window over a
sequence passes through phases (`RunScope.Phase`).

* `awaiting`: no page is being fetched, and nothing that touches the sequence is answered
  before its total is.
* `known`: the total is the one that was recorded, and the window is assured.  No answer
  brings another total, so no fetch can fall short any more.
* `alone`: the window is assured, and at most one pending fetch touches the sequence.  When
  its answer shows that the sequence grew, it takes the only marks with it.

An answer leads from a phase into a phase (`phase_onReply`, `phase_onFetchFailed`).  The
total leads from each of them to `known`, and so does a page from `alone`.  When nothing is
pending any more the window is full, whatever the phase (`Fills.assured`).
-/

namespace TraceViewer.RunScope

variable {refreshed : Bool} {total : Nat} {limit : SequenceKind → Nat} {run : RunId}
  {kind : SequenceKind} {fetch : PendingFetch} {pending rest queue : List PendingFetch}
  {scope before middle after : RunScope}

/-- The marks of a sequence are abreast of its total, and each slot of its window is held or
on its way. -/
def Assured (scope : RunScope) : SequenceKind → Prop
  | .executions => scope.executions.digests.Assured
  | .graphExecutions => scope.graphExecutions.Assured

/-- Whether no page of a sequence is being fetched. -/
def Unmarked (scope : RunScope) (kind : SequenceKind) : Prop :=
  ∀ start requestedEnd, ¬ scope.Marked (.sequence kind (.page start requestedEnd))

/-- Where a sequence stands while fetches are answered in order.  A session that was
refreshed never depends on a lone fetch. -/
inductive Phase (refreshed : Bool) (total : Nat) (run : RunId) (kind : SequenceKind)
    (pending : List PendingFetch) (scope : RunScope) : Prop where
  | awaiting (unmarked : scope.Unmarked kind) (first rest : List PendingFetch)
      (asked : pending = first ++ .data run (Timeline.totalRequest kind) :: rest)
      (untouching : Untouching run kind first)
  | known (assured : scope.Assured kind) (total_eq : scope.numItems kind = total)
  | alone (unrefreshed : refreshed = false) (assured : scope.Assured kind)
      (single : pending.countP (PendingFetch.touches run kind) ≤ 1)

/-! ## Steps that leave a sequence -/

theorem Still.numItems_eq (hstill : before.Still after kind) :
    after.numItems kind = before.numItems kind := by
  cases kind with
  | executions => exact hstill.keeps.numItems_eq
  | graphExecutions => exact hstill.keeps.numItems_eq

theorem Still.assured (hstill : before.Still after kind) (hassured : before.Assured kind) :
    after.Assured kind := by
  cases kind with
  | executions => exact Timeline.Still.assured hstill hassured
  | graphExecutions => exact Timeline.Still.assured hstill hassured

theorem Still.unmarked (hstill : before.Still after kind) (hunmarked : before.Unmarked kind) :
    after.Unmarked kind := by
  intro start requestedEnd hmark
  cases kind with
  | executions => exact hunmarked _ _ ((Timeline.Still.marked_page hstill).mp hmark)
  | graphExecutions => exact hunmarked _ _ ((Timeline.Still.marked_page hstill).mp hmark)

theorem assured_of_numItems_eq_zero (hempty : scope.numItems kind = 0) : scope.Assured kind := by
  cases kind with
  | executions => exact Timeline.assured_of_numItems_eq_zero hempty
  | graphExecutions => exact Timeline.assured_of_numItems_eq_zero hempty

theorem Sound.numItems_le (hsound : scope.Sound limit) (kind : SequenceKind) :
    scope.numItems kind ≤ limit kind := by
  cases kind with
  | executions => exact hsound.digests.numItems_le
  | graphExecutions => exact hsound.graphExecutions.numItems_le

/-- Of a sequence without items everything is known. -/
theorem phase_of_total_eq_zero (hsound : scope.Sound limit) (hzero : limit kind = 0) :
    scope.Phase refreshed (limit kind) run kind pending := by
  have hempty : scope.numItems kind = 0 := Nat.le_zero.mp (hzero ▸ hsound.numItems_le kind)
  exact .known (assured_of_numItems_eq_zero hempty) (hempty.trans hzero.symm)

theorem countP_eq_zero (huntouching : Untouching run kind queue) :
    queue.countP (PendingFetch.touches run kind) = 0 := by
  refine List.countP_eq_zero.mpr fun fetch hmem => ?_
  simp [huntouching fetch hmem]

theorem Phase.untouched (hphase : before.Phase refreshed total run kind pending)
    (hstep : before.Untouched run kind after queue) :
    after.Phase refreshed total run kind (pending ++ queue) := by
  cases hphase with
  | awaiting hunmarked first rest hasked huntouching =>
      refine .awaiting (hstep.still.unmarked hunmarked) first (rest ++ queue) ?_ huntouching
      rw [hasked, List.append_assoc, List.cons_append]
  | known hassured htotal =>
      exact .known (hstep.still.assured hassured) (hstep.still.numItems_eq.trans htotal)
  | alone hunrefreshed hassured hsingle =>
      refine .alone hunrefreshed (hstep.still.assured hassured) ?_
      rw [List.countP_append, countP_eq_zero hstep.untouching]
      exact hsingle

/-- A fetch other than the one for the total may leave the queue. -/
theorem Phase.tail (hphase : scope.Phase refreshed total run kind (fetch :: pending))
    (hother : fetch ≠ .data run (Timeline.totalRequest kind)) :
    scope.Phase refreshed total run kind pending := by
  cases hphase with
  | awaiting hunmarked first rest hasked huntouching =>
      cases first with
      | nil => exact absurd (List.cons.inj hasked).1 hother
      | cons head first =>
          exact .awaiting hunmarked first rest (List.cons.inj hasked).2
            fun fetch hmem => huntouching fetch (List.mem_cons_of_mem head hmem)
  | known hassured htotal => exact .known hassured htotal
  | alone hunrefreshed hassured hsingle =>
      refine .alone hunrefreshed hassured (Nat.le_trans ?_ hsingle)
      exact (List.sublist_cons_self fetch pending).countP_le

/-! ## Steps that leave the total -/

/-- A step that leaves the total, leaves the window assured and asks for one thing at
most. -/
structure Nudges (kind : SequenceKind) (before after : RunScope) (queue : List PendingFetch) :
    Prop where
  assured : before.Assured kind → after.Assured kind
  numItems_eq : after.numItems kind = before.numItems kind
  length_le : queue.length ≤ 1

theorem Still.nudges (hstill : before.Still after kind) (hlength : queue.length ≤ 1) :
    before.Nudges kind after queue :=
  ⟨hstill.assured, hstill.numItems_eq, hlength⟩

/-- A step that leaves a sequence, before a nudge. -/
theorem Still.trans_nudges (hstill : before.Still middle kind)
    (hnudges : middle.Nudges kind after queue) : before.Nudges kind after queue :=
  ⟨fun hassured => hnudges.assured (hstill.assured hassured),
    hnudges.numItems_eq.trans hstill.numItems_eq, hnudges.length_le⟩

/-- A step that leaves a sequence and asks for nothing, after a nudge. -/
theorem Nudges.trans_still (hnudges : before.Nudges kind middle queue)
    (hstill : middle.Still after kind) : before.Nudges kind after queue :=
  ⟨fun hassured => hstill.assured (hnudges.assured hassured),
    hstill.numItems_eq.trans hnudges.numItems_eq, hnudges.length_le⟩

/-- While the total is awaited, nothing that touches the sequence comes before it. -/
theorem eq_totalRequest_of_awaited {first more : List PendingFetch}
    (hasked : fetch :: rest = first ++ .data run (Timeline.totalRequest kind) :: more)
    (huntouching : Untouching run kind first) (htouches : fetch.touches run kind = true) :
    fetch = .data run (Timeline.totalRequest kind) := by
  cases first with
  | nil => exact (List.cons.inj hasked).1
  | cons head first =>
      have hhead := huntouching head List.mem_cons_self
      rw [← (List.cons.inj hasked).1, htouches] at hhead
      cases hhead

/-- A nudge that replaces the one fetch that touches the sequence. -/
theorem Nudges.phase (hnudges : before.Nudges kind after queue)
    (hphase : before.Phase refreshed total run kind (fetch :: rest))
    (htouches : fetch.touches run kind = true)
    (hother : fetch ≠ .data run (Timeline.totalRequest kind)) :
    after.Phase refreshed total run kind (rest ++ queue) := by
  cases hphase with
  | awaiting _ _ _ hasked huntouching =>
      -- the awaited total comes before all else that touches the sequence
      exact absurd (eq_totalRequest_of_awaited hasked huntouching htouches) hother
  | known hassured htotal =>
      exact .known (hnudges.assured hassured) (hnudges.numItems_eq.trans htotal)
  | alone hunrefreshed hassured hsingle =>
      refine .alone hunrefreshed (hnudges.assured hassured) ?_
      -- the only fetch that touched it is answered, and at most one is asked for instead
      rw [List.countP_cons_of_pos htouches] at hsingle
      have hqueue := Nat.le_trans (List.countP_le_length (p := PendingFetch.touches run kind))
        hnudges.length_le
      rw [List.countP_append]
      omega

theorem nudges_scroll (hsound : scope.Sound limit) (hfed : scope.Fed run pending)
    (other : SequenceKind) (step : ScrollStep) :
    scope.Nudges kind (scope.scroll run other step).1
      (Command.queueOf (scope.scroll run other step).2) := by
  have heffort := (effort_scroll limit scope run other step).1
  have hlength := Nat.le_trans (length_le_effortOf _) heffort
  cases other with
  | executions =>
      cases kind with
      | executions =>
          exact ⟨fun hassured => Timeline.assured_scroll hsound.digests hfed.digests hassured step,
            (Timeline.keeps_scroll hsound.digests run step).numItems_eq, hlength⟩
      | graphExecutions => exact ⟨id, rfl, hlength⟩
  | graphExecutions =>
      cases kind with
      | executions => exact ⟨id, rfl, hlength⟩
      | graphExecutions =>
          exact ⟨fun hassured => Timeline.assured_scroll hsound.graphExecutions
              hfed.graphExecutions hassured step,
            (Timeline.keeps_scroll hsound.graphExecutions run step).numItems_eq, hlength⟩

theorem length_queue_requestAlerts (scope : RunScope) (run : RunId) (alertType : AlertType) :
    (scope.requestAlerts run alertType).2.queue.length ≤ 1 := by
  rw [requestAlerts]
  rcases scope.alerts.requestType alertType with ⟨alerts, _ | range⟩
  · exact Nat.zero_le 1
  · exact Nat.le_refl 1

/-- Alerts of a kind that is held already are not asked for. -/
theorem queue_requestAlerts_of_held {alertType : AlertType}
    (hheld : alertType ∈ scope.alerts.shelves) (run : RunId) :
    (scope.requestAlerts run alertType).2.queue = [] := by
  rw [requestAlerts, AlertBoard.requestType]
  dsimp only
  rw [if_pos (Or.inr (Or.inl hheld))]
  rfl

/-- The window moves when alerts of the kind are held, and alerts are asked for when none
are. -/
theorem nudges_toggleAlerts (hsound : scope.Sound limit) (hfed : scope.Fed run pending)
    (alertType : AlertType) :
    scope.Nudges kind (scope.toggleAlerts run alertType).1
      (Command.queueOf (scope.toggleAlerts run alertType).2) := by
  have hcalm := (scope.quiet_toggled alertType).calm
  have hsound' := (leaves_toggled hsound run alertType).sound
  rw [toggleAlerts]
  dsimp only
  split_ifs
  · exact (hcalm.still kind).nudges (Nat.zero_le 1)
  · generalize { scope with alerts := scope.alerts.toggleFocus alertType } = toggled
      at hcalm hsound' ⊢
    rw [recenterOnAlert]
    cases hindex : toggled.alerts.firstExecutionIndex alertType with
    | none =>
        -- no alert tells where to go, so the alerts are asked for and the window stays
        have hrequested := (toggled.quiet_requestAlerts run alertType).calm
        refine ((hcalm.trans hrequested).still kind).nudges ?_
        dsimp only
        rw [Command.queueOf_combine_pair]
        exact toggled.length_queue_requestAlerts run alertType
    | some index =>
        have hmoved : toggled.Nudges kind _ _ :=
          nudges_scroll hsound' (hcalm.fed hfed) .executions (.recenter index)
        have hheld : alertType ∈ toggled.alerts.shelves := by
          rw [AlertBoard.firstExecutionIndex, Option.bind_eq_some_iff] at hindex
          obtain ⟨shelf, hshelf, _⟩ := hindex
          exact Std.ExtTreeMap.mem_iff_isSome_getElem?.mpr (by rw [hshelf]; rfl)
        have halerts : (toggled.scroll run .executions (.recenter index)).1.alerts =
            toggled.alerts := rfl
        dsimp only
        rcases hscroll : toggled.scroll run .executions (.recenter index) with
          ⟨moved, error | recentering⟩ <;> rw [hscroll] at hmoved halerts
        · exact (hcalm.still kind).trans_nudges hmoved
        · -- alerts of the kind are held, so they are not asked for
          rw [← halerts] at hheld
          have hrequested := (moved.quiet_requestAlerts run alertType).calm.still kind
          dsimp only
          rw [Command.queueOf_combine_pair, queue_requestAlerts_of_held hheld, List.append_nil]
          exact ((hcalm.still kind).trans_nudges hmoved).trans_still hrequested

/-- An event of the user, unless everything is asked for anew. -/
theorem nudges_operate (hsound : scope.Sound limit) (hfed : scope.Fed run pending)
    {operation : Operation} (hstays : operation ≠ .refresh) :
    scope.Nudges kind (scope.operate run operation).1
      (Command.queueOf (scope.operate run operation).2) := by
  cases operation with
  | refresh => exact absurd rfl hstays
  | scroll other step => exact nudges_scroll hsound hfed other step
  | focusByOffset other offset =>
      exact ((scope.quiet_focusByOffset other offset).calm.still kind).nudges (Nat.zero_le 1)
  | toggleAlerts alertType => exact nudges_toggleAlerts hsound hfed alertType
  | focusOp key => exact ((scope.quiet_focusOp key).calm.still kind).nudges (Nat.zero_le 1)
  | requestOp key =>
      refine ((scope.quiet_requestOp run key).calm.still kind).nudges ?_
      rw [operate, requestOp]
      rcases scope.ops.request key with ⟨ops, _ | _⟩
      · exact Nat.zero_le 1
      · exact Nat.le_refl 1
  | requestFile file =>
      refine ((scope.quiet_requestFile run file).calm.still kind).nudges ?_
      rw [operate, requestFile]
      rcases scope.sources.requestFile file with error | ⟨sources, _ | _⟩
      · exact Nat.zero_le 1
      · exact Nat.zero_le 1
      · exact Nat.le_refl 1

/-! ## Alerts -/

theorem nudges_tally (scope : RunScope) (run : RunId) (now : Nat) (tally : AlertTally) :
    scope.Nudges kind (scope.onReply run now (.numAlertsAndBreakdown tally)).1
      (Command.queueOf
        ((scope.onReply run now (.numAlertsAndBreakdown tally)).2.map Prod.fst)) := by
  refine ((scope.quiet_tally run now tally).calm.still kind).nudges ?_
  change (requestFocusedAlerts { scope with alerts := (scope.alerts.onTally tally now).1 }
    run).2.queue.length ≤ 1
  rw [requestFocusedAlerts]
  split
  · exact Nat.zero_le 1
  · exact length_queue_requestAlerts _ run _

theorem nudges_alertsOfType (hsound : scope.Sound limit) (hfed : scope.Fed run pending)
    (now : Nat) (alertType : AlertType) (range : Interval) (tally : AlertTally)
    (alerts : List Alert) :
    scope.Nudges kind (scope.onReply run now (.alertsOfType alertType range tally alerts)).1
      (Command.queueOf
        ((scope.onReply run now (.alertsOfType alertType range tally alerts)).2.map Prod.fst)) := by
  have hcalm : ∀ alerts, scope.Calm { scope with alerts } [] :=
    fun _ => calm_of_eq rfl rfl pageless_nil
  refine alertsOfType_induct (motive := scope.Nudges kind) now alertType range tally alerts
    (((hcalm _).still kind).nudges (Nat.zero_le 1)) (((hcalm _).still kind).nudges (Nat.zero_le 1))
    ?_ ?_
  · intro index
    exact ((hcalm _).still kind).trans_nudges
      (nudges_scroll (hsound.withAlerts _) ((hcalm _).fed hfed) .executions (.recenter index))
  · intro moved queue index hmoved
    exact hmoved.trans_still ((moved.quiet_focusGraphExecution (some index)).calm.still kind)

/-! ## Totals and pages -/

/-- No fetch of a page falls short of an item that is known. -/
def Abreast (scope : RunScope) : SequenceKind → Prop
  | .executions => scope.executions.digests.view.sequence.Abreast
  | .graphExecutions => scope.graphExecutions.view.sequence.Abreast

theorem Unmarked.abreast (hunmarked : scope.Unmarked kind) : scope.Abreast kind := by
  cases kind with
  | executions => exact Timeline.Unmarked.abreast hunmarked
  | graphExecutions => exact Timeline.Unmarked.abreast hunmarked

theorem Assured.abreast (hassured : scope.Assured kind) : scope.Abreast kind := by
  cases kind with
  | executions => exact Timeline.Assured.abreast hassured
  | graphExecutions => exact Timeline.Assured.abreast hassured

theorem Phase.abreast (hphase : scope.Phase refreshed total run kind pending) :
    scope.Abreast kind := by
  cases hphase with
  | awaiting hunmarked => exact hunmarked.abreast
  | known hassured => exact hassured.abreast
  | alone _ hassured => exact hassured.abreast

theorem untouching_of_single
    (hsingle : (fetch :: rest).countP (PendingFetch.touches run kind) ≤ 1)
    (htouches : fetch.touches run kind = true) : Untouching run kind rest := by
  rw [List.countP_cons_of_pos htouches] at hsingle
  intro other hmem
  exact Bool.eq_false_iff.mpr (List.countP_eq_zero.mp (by omega) other hmem)

theorem touches_totalRequest (run : RunId) (kind : SequenceKind) :
    (PendingFetch.data run (Timeline.totalRequest kind)).touches run kind = true := by
  cases kind <;> simp [PendingFetch.touches, Timeline.totalRequest, Request.touches]

theorem touches_page (run : RunId) (kind : SequenceKind) (range : Interval) :
    (PendingFetch.data run (.page kind range)).touches run kind = true := by
  simp [PendingFetch.touches, Request.touches]

/-- A window of which a page is answered is assured. -/
theorem Phase.assured {range : Interval}
    (hphase : scope.Phase refreshed total run kind (.data run (.page kind range) :: rest)) :
    scope.Assured kind := by
  cases hphase with
  | awaiting _ _ _ hasked huntouching =>
      have hfetch := eq_totalRequest_of_awaited hasked huntouching (touches_page run kind range)
      cases kind <;> cases hfetch
  | known hassured => exact hassured
  | alone _ hassured => exact hassured

section Growth

variable (hrequested : ∀ mark, scope.Marked mark → Requested (fetch :: rest) run mark)

/-- A page mark is backed by a fetch for that page. -/
theorem page_of_requested {start requestedEnd : Nat}
    (hmark : Requested pending run (.sequence kind (.page start requestedEnd))) :
    ∃ range, .data run (.page kind range) ∈ pending ∧ range.start ≤ start ∧
      requestedEnd ≤ range.stop := by
  obtain ⟨request, hmem, hbacks⟩ := hmark
  cases hbacks with
  | page hstart hstop => exact ⟨_, hmem, hstart, hstop⟩

include hrequested in
/-- When a sequence turns out to have grown, every mark of it is backed by the fetch that is
answered. -/
theorem Phase.backed_of_lt (hphase : scope.Phase refreshed total run kind (fetch :: rest))
    (htouches : fetch.touches run kind = true) (hlt : scope.numItems kind < total)
    {start requestedEnd : Nat} (hmark : scope.Marked (.sequence kind (.page start requestedEnd))) :
    ∃ range, fetch = .data run (.page kind range) ∧ range.start ≤ start ∧
      requestedEnd ≤ range.stop := by
  cases hphase with
  | awaiting hunmarked => exact absurd hmark (hunmarked start requestedEnd)
  | known _ htotal => omega
  | alone _ _ hsingle =>
      -- a mark is backed by a page, and no other fetch touches the sequence
      obtain ⟨range, hmem, hbounds⟩ := page_of_requested (hrequested _ hmark)
      rcases List.mem_cons.mp hmem with hhead | hrest
      · exact ⟨range, hhead.symm, hbounds⟩
      · have hfalse := untouching_of_single hsingle htouches _ hrest
        rw [touches_page] at hfalse
        cases hfalse

end Growth

theorem known_onTotal {recording : Recording} (hsound : scope.Sound recording.total)
    (hfed : scope.Fed run pending) (habreast : scope.Abreast kind)
    (hgrown : scope.numItems kind < recording.total kind → scope.Unmarked kind) {reply : Reply}
    (hreplies : recording.Replies (Timeline.totalRequest kind) reply) (now : Nat) :
    (scope.onReply run now reply).1.Assured kind ∧
      (scope.onReply run now reply).1.numItems kind = recording.total kind := by
  cases kind with
  | executions =>
      cases hreplies
      have hdigests :
          (scope.executions.digests.onTotal run recording.executions.length now).1.Assured ∧
            (scope.executions.digests.onTotal run recording.executions.length now).1.numItems =
              recording.executions.length :=
        Timeline.assured_onTotal hsound.digests hfed.digests.pagePrefix habreast
          hsound.digests.numItems_le hgrown now
      refine numExecutions_induct (motive := fun after _ =>
        after.Assured .executions ∧ after.numItems .executions = recording.executions.length)
        now _ hdigests ?_
      rintro before _ ⟨hassured, htotal⟩
      have hfirst := (before.quiet_focusFirst recording.executions.length).calm.still .executions
      exact ⟨hfirst.assured hassured, hfirst.numItems_eq.trans htotal⟩
  | graphExecutions =>
      cases hreplies
      exact Timeline.assured_onTotal hsound.graphExecutions hfed.graphExecutions.pagePrefix
        habreast hsound.graphExecutions.numItems_le hgrown now

theorem known_onPage {recording : Recording} (hsound : scope.Sound recording.total)
    (hfed : scope.Fed run pending) (hassured : scope.Assured kind) {range : Interval}
    (hasked : .data run (.page kind range) ∈ pending)
    (hgrown : scope.numItems kind < recording.total kind → ∀ start requestedEnd,
      scope.Marked (.sequence kind (.page start requestedEnd)) →
        range.start ≤ start ∧ requestedEnd ≤ range.stop) {reply : Reply}
    (hreplies : recording.Replies (.page kind range) reply) (now : Nat) :
    (scope.onReply run now reply).1.Assured kind ∧
      (scope.onReply run now reply).1.numItems kind = recording.total kind := by
  cases kind with
  | executions =>
      cases hreplies
      rw [← hsound.digests_kind] at hasked
      -- the archive answers what was asked for, so the batch is accepted
      obtain ⟨hrange, haccepts⟩ := Timeline.accepts_pageOf_asked hfed.digests hasked
        Execution.digest hsound.digests.numItems_le
      rw [← hrange] at hasked
      refine Timeline.assured_onPage hsound.digests hfed.digests haccepts hasked (Nat.le_refl _)
        hassured (fun hlt start requestedEnd hmark => ?_) now
      obtain ⟨hstart, hstop⟩ := hgrown hlt start requestedEnd hmark
      obtain ⟨hshort, hend⟩ := Timeline.lt_of_marked hsound.digests hmark
      exact Archive.spansPage_pageOf _ _ hshort hend hstart hstop
  | graphExecutions =>
      cases hreplies
      rw [← hsound.graph_kind] at hasked
      obtain ⟨hrange, haccepts⟩ := Timeline.accepts_pageOf_asked hfed.graphExecutions hasked id
        hsound.graphExecutions.numItems_le
      rw [← hrange] at hasked
      refine Timeline.assured_onPage hsound.graphExecutions hfed.graphExecutions haccepts hasked
        (Nat.le_refl _) hassured (fun hlt start requestedEnd hmark => ?_) now
      obtain ⟨hstart, hstop⟩ := hgrown hlt start requestedEnd hmark
      obtain ⟨hshort, hend⟩ := Timeline.lt_of_marked hsound.graphExecutions hmark
      exact Archive.spansPage_pageOf _ _ hshort hend hstart hstop

/-! ## Answers -/

theorem ne_totalRequest {request : Request} (hother : request ≠ Timeline.totalRequest kind) :
    PendingFetch.data run request ≠ .data run (Timeline.totalRequest kind) := by
  rintro ⟨⟩
  exact hother rfl

/-- A reply leads from a phase into a phase. -/
theorem phase_onReply {recording : Recording} (hsound : scope.Sound recording.total)
    {request : Request} (hfed : scope.Fed run (.data run request :: rest))
    (hrequested : ∀ mark, scope.Marked mark → Requested (.data run request :: rest) run mark)
    (hphase : scope.Phase refreshed (recording.total kind) run kind (.data run request :: rest))
    {reply : Reply} (hreplies : recording.Replies request reply) (now : Nat) :
    (scope.onReply run now reply).1.Phase refreshed (recording.total kind) run kind
      (rest ++ Command.queueOf ((scope.onReply run now reply).2.map Prod.fst)) := by
  have hmem : .data run request ∈ PendingFetch.data run request :: rest := List.mem_cons_self
  by_cases htotal : request = Timeline.totalRequest kind
  · -- the total is awaited, or it is no news
    subst htotal
    have hknown := known_onTotal hsound hfed hphase.abreast (fun hlt start requestedEnd hmark => by
      obtain ⟨range, hpage, _⟩ := hphase.backed_of_lt hrequested (touches_totalRequest run kind)
        hlt hmark
      cases kind <;> cases hpage) hreplies now
    exact .known hknown.1 hknown.2
  have hother : PendingFetch.data run request ≠ _ := ne_totalRequest htotal
  cases htouches : request.touches kind with
  | false =>
      exact (hphase.tail hother).untouched
        (untouched_onReply hsound hfed hreplies hmem htouches now)
  | true =>
      have hhead : (PendingFetch.data run request).touches run kind = true := by
        simp [PendingFetch.touches, htouches]
      have hnudged : ∀ {after : RunScope} {queue : List PendingFetch},
          scope.Nudges kind after queue →
            after.Phase refreshed (recording.total kind) run kind (rest ++ queue) :=
        fun hnudges => hnudges.phase hphase hhead hother
      cases request with
      | page other range =>
          -- the page is one of this sequence, and all that was being fetched lies in it
          obtain rfl : other = kind := of_decide_eq_true htouches
          have hknown := known_onPage hsound hfed hphase.assured hmem
            (fun hlt start requestedEnd hmark => by
              obtain ⟨_, hpage, hbounds⟩ := hphase.backed_of_lt hrequested hhead hlt hmark
              cases hpage
              exact hbounds) hreplies now
          exact .known hknown.1 hknown.2
      | numAlertsAndBreakdown =>
          cases hreplies
          -- alerts can move the window, which asks for one range at most
          exact hnudged (scope.nudges_tally run now recording.tally)
      | alertsOfType alertType range =>
          cases hreplies
          exact hnudged (nudges_alertsOfType hsound hfed now alertType range _ _)
      | numExecutions =>
          cases kind with
          | executions => exact absurd rfl htotal
          | graphExecutions => cases htouches
      | numGraphExecutions =>
          cases kind with
          | executions => cases htouches
          | graphExecutions => exact absurd rfl htotal
      | _ => cases htouches

theorem phase_onFetchFailed {request : Request} (hpage : ∀ kind range, request ≠ .page kind range)
    (hother : request ≠ Timeline.totalRequest kind)
    (hphase : scope.Phase refreshed total run kind (.data run request :: rest)) :
    (scope.onFetchFailed request).Phase refreshed total run kind rest := by
  have hcalm := (scope.quiet_onFetchFailed hpage).calm
  have hfailed := (hphase.tail (ne_totalRequest hother)).untouched
    ⟨hcalm.still kind, untouching_nil⟩
  rwa [List.append_nil] at hfailed

/-! ## Both sequences -/

/-- The pages of a queue are promised, and each sequence is in a phase. -/
structure Fills (refreshed : Bool) (total : SequenceKind → Nat) (run : RunId)
    (pending : List PendingFetch) (scope : RunScope) : Prop where
  fed : scope.Fed run pending
  phase : ∀ kind, scope.Phase refreshed (total kind) run kind pending

theorem Fills.settle (hfills : scope.Fills refreshed limit run pending)
    (hsound : scope.Sound limit) (sticky : Bool) :
    (scope.settle run sticky).1.Fills refreshed limit run
      (pending ++ (scope.settle run sticky).2.queue) where
  fed := ((scope.quiet_settle run sticky).calm.attends hfills.fed).fed
  phase kind := (hfills.phase kind).untouched (untouched_settle hsound run run sticky)

theorem Fills.onReply {recording : Recording} (hsound : scope.Sound recording.total)
    {request : Request}
    (hfills : scope.Fills refreshed recording.total run (.data run request :: rest))
    (hrequested : ∀ mark, scope.Marked mark → Requested (.data run request :: rest) run mark)
    {reply : Reply} (hreplies : recording.Replies request reply) (now : Nat) :
    (scope.onReply run now reply).1.Fills refreshed recording.total run
      (rest ++ Command.queueOf ((scope.onReply run now reply).2.map Prod.fst)) where
  fed := by
    refine (attends_onReply hsound hfills.fed hreplies List.mem_cons_self now).fed.of_subset ?_
    exact List.append_subset.mpr ⟨List.subset_append_of_subset_left _ (List.subset_cons_self ..),
      List.subset_append_right ..⟩
  phase kind := phase_onReply hsound hfills.fed hrequested (hfills.phase kind) hreplies now

/-- A page is asked for only when there are items. -/
theorem numItems_pos_of_asked (hsound : scope.Sound limit) (hfed : scope.Fed run pending)
    {range : Interval} (hasked : .data run (.page kind range) ∈ pending) :
    0 < scope.numItems kind := by
  cases kind with
  | executions =>
      rw [← hsound.digests_kind] at hasked
      obtain ⟨_, hlt, hstop⟩ := hfed.digests.range hasked
      exact Nat.lt_of_lt_of_le (Nat.zero_lt_of_lt hlt) hstop
  | graphExecutions =>
      rw [← hsound.graph_kind] at hasked
      obtain ⟨_, hlt, hstop⟩ := hfed.graphExecutions.range hasked
      exact Nat.lt_of_lt_of_le (Nat.zero_lt_of_lt hlt) hstop

theorem Fills.tail (hfills : scope.Fills refreshed limit run (fetch :: rest))
    (hother : ∀ kind, fetch ≠ .data run (Timeline.totalRequest kind)) :
    scope.Fills refreshed limit run rest :=
  ⟨hfills.fed.of_subset (List.subset_cons_self ..),
    fun kind => (hfills.phase kind).tail (hother kind)⟩

/-- A failure, when the recording answers all requests for totals and pages, or is empty. -/
theorem Fills.onFetchFailed (hsound : scope.Sound limit) {request : Request}
    (hfills : scope.Fills refreshed limit run (.data run request :: rest))
    (hpage : ∀ kind range, request ≠ .page kind range)
    (htotal : ∀ kind, request = Timeline.totalRequest kind → limit kind = 0) :
    (scope.onFetchFailed request).Fills refreshed limit run rest where
  fed := (scope.quiet_onFetchFailed hpage).calm.fed
    (hfills.fed.of_subset (List.subset_cons_self ..))
  phase kind := by
    by_cases hother : request = Timeline.totalRequest kind
    · have hfailed : Failed limit run scope request (scope.onFetchFailed request) :=
        failed_onFetchFailed hsound request
      exact phase_of_total_eq_zero hfailed.sound (htotal kind hother)
    · exact phase_onFetchFailed hpage hother (hfills.phase kind)

/-- Everything is asked for anew while no page is being fetched. -/
theorem fills_refresh (hsound : scope.Sound limit) (hfed : scope.Fed run pending)
    (hunmarked : ∀ kind, scope.Unmarked kind) (huntouching : ∀ kind, Untouching run kind pending)
    (refreshed : Bool) (total : SequenceKind → Nat) :
    (scope.refresh run).1.Fills refreshed total run
      (pending ++ (scope.refresh run).2.queue) where
  fed := ((scope.quiet_refresh run).calm.attends hfed).fed
  phase kind := by
    have hstill := (scope.quiet_refresh run).calm.still kind
    have hqueue : (scope.refresh run).2.queue =
        [.data run .numExecutions, .data run .numGraphExecutions,
          .data run .numAlertsAndBreakdown, .data run .sourceFileList] := by
      rw [refresh, Command.queue_combine]
      simp only [Timeline.requestTotal, hsound.digests_kind, hsound.graph_kind]
      rfl
    rw [hqueue]
    cases kind with
    | executions =>
        -- the total of the executions is asked for before that of the graph executions
        exact .awaiting (hstill.unmarked (hunmarked _)) pending _ rfl (huntouching _)
    | graphExecutions =>
        refine .awaiting (hstill.unmarked (hunmarked _)) (pending ++ [.data run .numExecutions]) _
          (by rw [List.append_assoc]; rfl) ((huntouching _).append ?_)
        exact untouching_fetch rfl run

/-- The windows are full, and nothing that touches the sequences is pending. -/
theorem fills_of_assured (hfed : scope.Fed run pending) (hassured : ∀ kind, scope.Assured kind)
    (huntouching : ∀ kind, Untouching run kind pending) (total : SequenceKind → Nat) :
    scope.Fills false total run pending where
  fed := hfed
  phase kind := .alone rfl (hassured kind)
    (Nat.le_trans (Nat.le_of_eq (countP_eq_zero (huntouching kind))) (Nat.zero_le 1))

/-- Another event of the user, while nothing that touches the sequences is pending. -/
theorem fills_operate (hsound : scope.Sound limit) (hfed : scope.Fed run pending)
    (hassured : ∀ kind, scope.Assured kind) (huntouching : ∀ kind, Untouching run kind pending)
    {operation : Operation} (hstays : operation ≠ .refresh) (total : SequenceKind → Nat) :
    (scope.operate run operation).1.Fills false total run
      (pending ++ Command.queueOf (scope.operate run operation).2) where
  fed := (attends_operate hsound hfed operation).fed
  phase kind := by
    have hnudges : scope.Nudges kind _ _ := nudges_operate hsound hfed hstays
    refine .alone rfl (hnudges.assured (hassured kind)) ?_
    have hqueue := Nat.le_trans (List.countP_le_length (p := PendingFetch.touches run kind))
      hnudges.length_le
    rw [List.countP_append, countP_eq_zero (huntouching kind)]
    omega

/-! ## When nothing is pending -/

theorem Assured.promises (hassured : scope.Assured kind) {index : Nat}
    (hvisible : index ∈ scope.visibleRange kind) : scope.Promises kind index := by
  cases kind with
  | executions => exact Timeline.Assured.promises hassured index hvisible
  | graphExecutions => exact Timeline.Assured.promises hassured index hvisible

/-- When nothing is on its way, an assured window is a full one. -/
theorem assured_iff_holds (hnone : ∀ mark, ¬ scope.Marked mark) (kind : SequenceKind) :
    scope.Assured kind ↔ ∀ index ∈ scope.visibleRange kind, scope.Holds kind index := by
  constructor
  · intro hassured index hvisible
    exact (promises_iff_of_not_marked hnone kind index).mp (hassured.promises hvisible)
  · intro hheld
    have hunmarked : scope.Unmarked kind := fun _ _ => hnone _
    have hpromised : ∀ index ∈ scope.visibleRange kind, scope.Promises kind index :=
      fun index hvisible =>
        (promises_iff_of_not_marked hnone kind index).mpr (hheld index hvisible)
    cases kind with
    | executions => exact ⟨hunmarked.abreast, hpromised⟩
    | graphExecutions => exact ⟨hunmarked.abreast, hpromised⟩

theorem Fills.assured (hfills : scope.Fills refreshed limit run []) (kind : SequenceKind) :
    scope.Assured kind := by
  cases hfills.phase kind with
  | awaiting _ first rest hasked => simp at hasked
  | known hassured => exact hassured
  | alone _ hassured => exact hassured

/-- A session that was refreshed knows the totals of the recording. -/
theorem Fills.numItems_eq (hfills : scope.Fills true limit run []) (kind : SequenceKind) :
    scope.numItems kind = limit kind := by
  cases hfills.phase kind with
  | awaiting _ first rest hasked => simp at hasked
  | known _ htotal => exact htotal
  | alone hunrefreshed => cases hunrefreshed

end TraceViewer.RunScope
