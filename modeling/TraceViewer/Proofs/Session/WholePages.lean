import TraceViewer.Proofs.Session.Promises
import TraceViewer.Proofs.Session.Requests

/-!
# Whole pages

Of each page a sequence holds a first part, and a window that is asked for relies on it
(`PagePrefix`).  It stays so whatever becomes of the fetches: pages may arrive in any order
and more than once, for a sequence that was forgotten since, and they may fail.

The reason is that whatever is pending is proper (`PendingFetch.Proper`), and what is
proper is answered with the whole range that was asked for, from the start of a page on.
Nothing is promised of what is pending here, so a session is `Fed` by no queue at all.
-/

namespace TraceViewer

/-- A proper request of some run; the listing is one as well. -/
def PendingFetch.Proper (geometry : SequenceKind → Geometry)
    (limit : RunId → SequenceKind → Nat) : PendingFetch → Prop
  | .runs => True
  | .data run request => request.Proper geometry (limit run)

theorem PendingFetch.Proper.mono {geometry : SequenceKind → Geometry}
    {limit more : RunId → SequenceKind → Nat} {fetch : PendingFetch}
    (hproper : fetch.Proper geometry limit) (hle : ∀ run kind, limit run kind ≤ more run kind) :
    fetch.Proper geometry more := by
  cases fetch with
  | runs => exact True.intro
  | data run request => exact Request.Proper.mono hproper (hle run)

/-! ## Timelines -/

namespace Timeline

variable {α : Type} {timeline : Timeline α} {limit : Nat} {run : RunId}

/-- Without a queue, only the prefixes count. -/
theorem fed_nil (hfirsts : timeline.view.sequence.PagePrefix) : timeline.Fed run [] where
  pagePrefix := hfirsts
  range := by
    rintro _ ⟨⟩
  promised := by
    rintro _ ⟨⟩

/-- A batch from the start of a page on. -/
theorem fed_onPage (hsound : timeline.Sound limit) (hfed : timeline.Fed run [])
    {batch : Batch α} (haccepts : timeline.view.sequence.Accepts batch)
    (haligned : batch.range.start % timeline.view.sequence.pageSize = 0)
    (hlimit : batch.total ≤ limit) (now : Nat) :
    (timeline.onPage run batch now).1.Fed run [] := by
  have hmerged : (timeline.merged batch now).Fed run [] := by
    refine fed_nil ?_
    rw [view_merged_of_accepts haccepts]
    exact PagedSequence.pagePrefix_stored hfed.pagePrefix haccepts haligned
  by_cases hlt : timeline.numItems < batch.total
  · -- the total grew, so the window is asked for
    obtain ⟨view, demand, hresolved, _, _, hpage⟩ :=
      onPage_of_accepts_lt hsound haccepts hlt hlimit run now
    rw [hpage]
    exact (attends_asking hmerged hresolved).1.of_subset (List.nil_subset _)
  · rw [onPage_of_accepts_le haccepts (Nat.le_of_not_lt hlt)]
    exact hmerged

end Timeline

/-! ## Scopes -/

namespace RunScope

variable {limit : SequenceKind → Nat} {scope : RunScope} {run : RunId}

/-- Anything but a page may be pending. -/
theorem Fed.of_pageless (hfed : scope.Fed run []) {request : Request}
    (hrequest : ∀ kind range, request ≠ .page kind range) :
    scope.Fed run [.data run request] :=
  ⟨hfed.digests.append (pageless_fetch run hrequest run _),
    hfed.graphExecutions.append (pageless_fetch run hrequest run _)⟩

theorem fed_onPage {recording : Recording} (hsound : scope.Sound recording.total)
    (hfed : scope.Fed run []) {kind : SequenceKind} {range : Interval}
    (hproper : (Request.page kind range).Proper scope.geometry recording.total) {reply : Reply}
    (hreplies : recording.Replies (.page kind range) reply) (now : Nat) :
    (scope.onReply run now reply).1.Fed run [] := by
  obtain ⟨haligned, hlt, hstop⟩ := hproper
  cases hreplies with
  | executionDigests =>
      obtain ⟨hrange, haccepts⟩ := scope.executions.digests.accepts_pageOf Execution.digest
        hlt hstop hsound.digests.numItems_le
      rw [← hrange] at haligned
      exact ⟨Timeline.fed_onPage hsound.digests hfed.digests haccepts haligned (Nat.le_refl _) now,
        hfed.graphExecutions⟩
  | graphExecutions =>
      obtain ⟨hrange, haccepts⟩ := scope.graphExecutions.accepts_pageOf id
        hlt hstop hsound.graphExecutions.numItems_le
      rw [← hrange] at haligned
      exact ⟨hfed.digests, Timeline.fed_onPage hsound.graphExecutions hfed.graphExecutions
        haccepts haligned (Nat.le_refl _) now⟩

theorem fed_onReply {recording : Recording} (hsound : scope.Sound recording.total)
    (hfed : scope.Fed run []) {request : Request}
    (hproper : request.Proper scope.geometry recording.total) {reply : Reply}
    (hreplies : recording.Replies request reply) (now : Nat) :
    (scope.onReply run now reply).1.Fed run [] := by
  by_cases hpage : ∃ kind range, request = .page kind range
  · obtain ⟨kind, range, rfl⟩ := hpage
    exact fed_onPage hsound hfed hproper hreplies now
  · have hpageless : ∀ kind range, request ≠ .page kind range := fun kind range heq =>
      hpage ⟨kind, range, heq⟩
    have hattends := attends_onReply hsound (hfed.of_pageless hpageless) hreplies
      List.mem_cons_self now
    exact hattends.fed.of_subset (List.nil_subset _)

/-- A failure leaves all items. -/
theorem fed_onFetchFailed (hfed : scope.Fed run []) (request : Request) :
    (scope.onFetchFailed request).Fed run [] := by
  cases request with
  | page kind range =>
      cases kind with
      | executions => exact ⟨Timeline.fed_nil hfed.digests.pagePrefix, hfed.graphExecutions⟩
      | graphExecutions => exact ⟨hfed.digests, Timeline.fed_nil hfed.graphExecutions.pagePrefix⟩
  | _ => exact (scope.quiet_onFetchFailed (by simp)).calm.fed hfed

end RunScope

/-! ## Sessions -/

namespace Session

variable {limit : RunId → SequenceKind → Nat} {archive : Archive} {session : Session}
  {pending : List PendingFetch}

theorem Attends.fed_nil {after : Session} {queue : List PendingFetch}
    (hattends : session.Attends pending after queue) : after.Fed [] :=
  hattends.fed.of_subset (List.nil_subset _)

theorem fed_changeRun (session : Session) (run : Option RunId) :
    (session.changeRun run).1.Fed [] := by
  let selected : Session :=
    { session with activeRun := run, scope := .fresh session.config session.config_valid }
  have hselected : selected.Fed [] :=
    { scope := fun other _ => RunScope.fed_fresh session.config session.config_valid
        (pageless_nil other)
      unasked := fun _ _ _ => List.not_mem_nil
      empty := by
        intro _ kind
        cases kind <;> rfl }
  exact (attends_refresh hselected).fed_nil

theorem fed_reduce_user (hfed : session.Fed []) (hbacked : session.Backed limit pending)
    (now : Nat) {event : Event} (huser : event.isUser = true) :
    (session.reduce now event).1.Fed [] := by
  rcases session.reduce_user now huser with ⟨run, _, hchange⟩ | hstep
  · rw [hchange]
    exact session.fed_changeRun run
  · exact (attends_userStep hfed hbacked hstep).fed_nil

theorem fed_reduce_failure (hfed : session.Fed []) (fetch : PendingFetch) (now : Nat) :
    (session.reduce now (Simulation.failureOf fetch)).1.Fed [] := by
  cases fetch with
  | runs => exact ⟨hfed.scope, hfed.unasked, hfed.empty⟩
  | data run request =>
      rw [Simulation.failureOf, reduce, onFetchFailed]
      split_ifs with hactive
      · exact fed_scope hactive (RunScope.fed_onFetchFailed (hfed.scope hactive) request)
      · exact hfed

/-- The outcome of a proper fetch. -/
theorem fed_reduce_outcome (hshaped : session.Shaped) (hfed : session.Fed [])
    (hbacked : session.Backed (fun run => (archive.recordingOf run).total) pending)
    {fetch : PendingFetch}
    (hproper : fetch.Proper session.config.geometry fun run => (archive.recordingOf run).total)
    (now : Nat) : (session.reduce now (Simulation.outcomeOf archive fetch)).1.Fed [] := by
  cases fetch with
  | runs =>
      rw [Simulation.outcomeOf]
      cases DataSource.listRuns archive with
      | error => exact session.fed_reduce_failure hfed .runs now
      | ok runs =>
          dsimp only
          rw [reduce]
          split_ifs
          · exact ⟨hfed.scope, hfed.unasked, hfed.empty⟩
          · -- the sequences of another run are empty
            exact fed_changeRun _ runs.minKey?
  | data run request =>
      rcases archive.outcomeOf_data run request with ⟨reply, hreplies, houtcome⟩ | houtcome
      · rw [houtcome, reduce, onLoaded]
        split_ifs with hactive
        · have hscope : (session.scope.onReply run now reply).1.Fed run [] :=
            RunScope.fed_onReply (hbacked.sound_active hactive) (hfed.scope hactive)
              (hshaped ▸ hproper) hreplies now
          rcases hreply : session.scope.onReply run now reply with
            ⟨scope, error | ⟨command, grew⟩⟩ <;> rw [hreply] at hscope
          · exact fed_scope hactive hscope
          · have hreplied := fed_scope hactive hscope
            exact ⟨hreplied.scope, hreplied.unasked, hreplied.empty⟩
        · exact hfed
      · rw [houtcome]
        exact session.fed_reduce_failure hfed (.data run request) now

theorem fed_settle (hfed : session.Fed []) : session.settle.1.Fed [] := by
  rcases Option.eq_none_or_eq_some session.activeRun with hactive | ⟨run, hactive⟩
  · rw [settle_of_none hactive]
    exact hfed
  · rw [settle_of_some hactive]
    exact fed_scope hactive
      ((session.scope.quiet_settle run session.stickyFocus).calm.fed (hfed.scope hactive))

theorem fed_apply {event : Event} {now : Nat} (hreduced : (session.reduce now event).1.Fed []) :
    (session.apply event now).1.Fed [] :=
  apply_induct (motive := fun after _ => after.Fed []) hreduced (fed_settle hreduced)

/-! ## What is asked for -/

theorem Asks.proper {queue : List PendingFetch} (hasks : session.Asks limit queue)
    {fetch : PendingFetch} (hmem : fetch ∈ queue) :
    fetch.Proper session.config.geometry limit := by
  obtain ⟨run, request, rfl, _, hproper⟩ := hasks fetch hmem
  exact hproper

theorem proper_reduce_user (hshaped : session.Shaped) (hbacked : session.Backed limit pending)
    (now : Nat) {event : Event} (huser : event.isUser = true) {fetch : PendingFetch}
    (hmem : fetch ∈ Command.queueOf (session.reduce now event).2) :
    fetch.Proper session.config.geometry limit := by
  rcases asks_reduce_user hshaped hbacked now huser with hlisting | hasks
  · rw [hlisting] at hmem
    rw [List.mem_singleton.mp hmem]
    exact True.intro
  · rw [← (session.reshapes_reduce now event).config_eq]
    exact hasks.proper hmem

theorem proper_reduce_answer (hshaped : session.Shaped) (hbacked : session.Backed limit pending)
    (now : Nat) {fetch : PendingFetch} {event : Event} (hanswers : fetch.Answers limit event)
    {asked : PendingFetch} (hmem : asked ∈ Command.queueOf (session.reduce now event).2) :
    asked.Proper session.config.geometry limit := by
  rw [← (session.reshapes_reduce now event).config_eq]
  exact (asks_reduce_answer hshaped hbacked now hanswers).proper hmem

/-- Settling asks for proper things only. -/
theorem proper_apply {event : Event} {now : Nat}
    (hbacked : (session.reduce now event).1.Backed limit pending)
    (hreduced : ∀ fetch ∈ Command.queueOf (session.reduce now event).2,
      fetch.Proper session.config.geometry limit) :
    ∀ fetch ∈ Command.queueOf (session.apply event now).2,
      fetch.Proper session.config.geometry limit := by
  rw [← (session.reshapes_reduce now event).config_eq] at hreduced
  rw [← (session.reshapes_apply event now).config_eq]
  exact forall_queue_apply (motive := fun _ config fetch => fetch.Proper config.geometry limit)
    hreduced fun _ hmem => (asks_settle hbacked).proper hmem

end Session

end TraceViewer
