import TraceViewer.Sample
import TraceViewer.Proofs.Session.Backing
import TraceViewer.Proofs.Simulation.ArchiveReplies

/-!
# No mark is left behind

In a simulation against an archive every mark of the active run is backed by a pending
fetch of that run, whatever the schedule: fetches may be delivered out of order and more
than once, they may fail, the archive may be offline, and runs may be selected and
selected again (`marks_backed`).  Once nothing is pending, nothing is marked.

## Strategy

The session is `Backed` by the queue, and the archive is `Keyed`.  An event of the user
adds to the queue what it marks.  A delivery takes a fetch out of the queue; for that
the reply has to take every mark that the request backs (`clears_of_replies`):

* a page is cut off at the end of the sequence, but no mark reaches past it;
* an op comes back under the graph and the name that it was asked for, because the
  archive keeps it under its own (`Recording.Keyed`);
* the frames of a request come back together or not at all.
-/

namespace TraceViewer

/-- How far loading the pages of a sequence has come. -/
def RunScope.pagesLoad (scope : RunScope) : SequenceKind → LoadState
  | .executions => scope.executions.digests.pagesLoad
  | .graphExecutions => scope.graphExecutions.pagesLoad

namespace Archive

/-! ## Replies and marks -/

/-- A page is cut off at the end of the sequence, so it still reaches every mark. -/
theorem spansPage_pageOf {α β : Type} (view : α → β) (all : List α) {range : Interval}
    {start requestedEnd : Nat} (hlt : start < requestedEnd) (hle : requestedEnd ≤ all.length)
    (hstart : range.start ≤ start) (hstop : requestedEnd ≤ range.stop) :
    Timeline.SpansPage (pageOf view all range).range (.page start requestedEnd) := by
  simp only [Timeline.SpansPage, pageOf, Interval.mem_def]
  omega

/-- A reply takes every mark that its request backs. -/
theorem clears_of_replies {recording : Recording} (hkeyed : recording.Keyed) {request : Request}
    {reply : Reply} (hreplies : recording.Replies request reply) {mark : Mark}
    (hwithin : mark.Within recording.total) (hbacks : request.Backs mark) :
    reply.Clears mark := by
  cases hreplies with
  | numExecutions =>
      cases hbacks
      exact .numExecutions _
  | numGraphExecutions =>
      cases hbacks
      exact .numGraphExecutions _
  | executionDigests range =>
      cases hbacks with
      | page hstart hstop =>
          -- the archive cuts a page off at its end, where the mark ends too
          exact .executionDigests (spansPage_pageOf _ _ hwithin.1 hwithin.2 hstart hstop)
  | graphExecutions range =>
      cases hbacks with
      | page hstart hstop =>
          exact .graphExecutions (spansPage_pageOf _ _ hwithin.1 hwithin.2 hstart hstop)
  | executionData =>
      cases hbacks with
      | executionData hmem => exact .executionData hmem
  | stackFrames hframes =>
      cases hbacks with
      | stackFrames hmem => exact .stackFrames ((framesIn_spec hframes).1 _ hmem)
  | graphOpInfo hop =>
      cases hbacks
      obtain ⟨hgraph, hname, _⟩ := hkeyed hop
      exact .graphOpInfo hgraph hname
  | sourceFileList =>
      cases hbacks
      exact .sourceFileList _
  | sourceFile =>
      cases hbacks
      exact .sourceFile ..
  | numAlertsAndBreakdown =>
      cases hbacks
      exact .numAlertsAndBreakdown _
  | alertsOfType =>
      cases hbacks with
      | alerts => exact .alerts ..
      | alertsOfType => exact .alertsOfType ..

theorem sound_of_replies {recording : Recording} {request : Request} {reply : Reply}
    (hreplies : recording.Replies request reply) : reply.Sound recording.total := by
  cases hreplies with
  | numExecutions => exact Nat.le_refl _
  | numGraphExecutions => exact Nat.le_refl _
  | executionDigests => exact Nat.le_refl _
  | graphExecutions => exact Nat.le_refl _
  | sourceFileList => exact Std.ExtTreeMap.nodup_keys
  | _ => trivial

/-- What becomes of a fetch answers it. -/
theorem answers_outcomeOf {archive : Archive} (hkeyed : ∀ run, (archive.recordingOf run).Keyed)
    (fetch : PendingFetch) :
    fetch.Answers (fun run => (archive.recordingOf run).total)
      (Simulation.outcomeOf archive fetch) := by
  cases fetch with
  | runs =>
      rw [Simulation.outcomeOf]
      rcases DataSource.listRuns archive with error | runs
      · exact .runsFailed
      · exact .runsLoaded runs
  | data run request =>
      rcases archive.outcomeOf_data run request with ⟨reply, hreplies, houtcome⟩ | houtcome
      · rw [houtcome]
        -- what the archive answers clears every mark that the request backs
        exact .loaded (sound_of_replies hreplies) fun _ hwithin hbacks =>
          clears_of_replies (hkeyed run) hreplies hwithin hbacks
      · rw [houtcome]
        exact .fetchFailed run request

end Archive

namespace Simulation

/-- What holds of a simulation throughout: the session waits only for what is pending. -/
structure Backed (simulation : Simulation Archive) : Prop where
  session : simulation.session.Backed (fun run => (simulation.source.recordingOf run).total)
    simulation.pending
  keyed : ∀ run, (simulation.source.recordingOf run).Keyed

theorem backed_opening (config : Config) (valid : config.Valid) (additions : List Addition) :
    (opening config valid additions).Backed where
  session := Session.backed_fresh config valid
  keyed := Archive.keyed_ofAdditions additions

/-- An event that leaves the session backed by the queue. -/
theorem backed_send {simulation : Simulation Archive} {event : Event}
    (hkeyed : ∀ run, (simulation.source.recordingOf run).Keyed)
    (hreduced : (simulation.session.reduce simulation.clock event).1.Backed
      (fun run => (simulation.source.recordingOf run).total)
      (simulation.pending ++
        Command.queueOf (simulation.session.reduce simulation.clock event).2)) :
    (simulation.send event).Backed := by
  refine ⟨?_, ?_⟩
  · rw [session_send, source_send, pending_send]
    exact Session.backed_apply hreduced
  · rw [source_send]
    exact hkeyed

/-- Completing or failing a fetch, whether it stays in the queue or not. -/
theorem backed_answer {simulation : Simulation Archive} (hbacked : simulation.Backed)
    {fetch : PendingFetch} {event : Event}
    (hanswers : fetch.Answers (fun run => (simulation.source.recordingOf run).total) event)
    {rest : List PendingFetch}
    (hrest : ∀ other ∈ simulation.pending, other ≠ fetch → other ∈ rest) (entry : LogRecord) :
    (({ simulation with pending := rest }.record entry).send event).Backed :=
  backed_send hbacked.keyed
    (Session.backed_reduce_answer hbacked.session hrest simulation.clock hanswers)

theorem backed_answered {simulation after : Simulation Archive} (hbacked : simulation.Backed)
    (hanswered : simulation.Answered after) : after.Backed := by
  cases hanswered with
  | idle => exact hbacked
  | outcome entry _ _ hothers =>
      exact backed_answer hbacked (Archive.answers_outcomeOf hbacked.keyed _) hothers entry
  | failure entry _ _ hothers =>
      exact backed_answer hbacked (PendingFetch.answers_failureOf _) hothers entry

/-- Every move keeps the session backed. -/
theorem backed_play {simulation : Simulation Archive} (hbacked : simulation.Backed) {move : Move}
    (hfair : move.IsFair) : (simulation.play move).Backed := by
  cases move with
  | send event =>
      exact backed_send hbacked.keyed
        (Session.backed_reduce_user hbacked.session simulation.clock hfair)
  | deliver index => exact backed_answered hbacked (simulation.answered_deliver index)
  | duplicate index => exact backed_answered hbacked (simulation.answered_duplicate index)
  | fail index => exact backed_answered hbacked (simulation.answered_fail index)
  | advance time => exact ⟨hbacked.session, hbacked.keyed⟩
  | add addition =>
      refine ⟨hbacked.session.mono fun run kind => ?_, Archive.keyed_add hbacked.keyed addition⟩
      exact Archive.total_add simulation.source addition run kind
  | setOffline offline => exact ⟨hbacked.session, hbacked.keyed⟩

theorem backed_playAll {simulation : Simulation Archive} (hbacked : simulation.Backed)
    {moves : List Move} (hfair : ∀ move ∈ moves, move.IsFair) :
    (simulation.playAll moves).Backed := by
  induction moves generalizing simulation with
  | nil => exact hbacked
  | cons move rest ih =>
      rw [List.forall_mem_cons] at hfair
      exact ih (backed_play hbacked hfair.1) hfair.2

/-! ## Marks of every schedule -/

/-- When nothing is pending, nothing is marked. -/
theorem Backed.not_marked {simulation : Simulation Archive} (hbacked : simulation.Backed)
    (hquiet : simulation.pending = []) (mark : Mark) :
    ¬ simulation.session.scope.Marked mark := by
  have hsession := hbacked.session
  rw [hquiet] at hsession
  exact hsession.not_marked mark

/-- Loading pages are backed by a fetch of one of them. -/
theorem Backed.pages_requested {simulation : Simulation Archive} (hbacked : simulation.Backed)
    {kind : SequenceKind} (hloading : (simulation.session.scope.pagesLoad kind).isLoading = true) :
    ∃ (run : RunId) (range : Interval), simulation.session.activeRun = some run ∧
      .data run (.page kind range) ∈ simulation.pending := by
  -- the load state tells no range, but it is set only while a page is marked
  have hrequested : ∀ {start requestedEnd : Nat},
      simulation.session.scope.Marked (.sequence kind (.page start requestedEnd)) →
        ∃ (run : RunId) (range : Interval), simulation.session.activeRun = some run ∧
          .data run (.page kind range) ∈ simulation.pending := by
    intro start requestedEnd hmark
    obtain ⟨run, hactive, request, hpending, hbacks⟩ := hbacked.session.marked _ hmark
    cases hbacks
    exact ⟨run, _, hactive, hpending⟩
  have hsound := hbacked.session.sound
  cases kind with
  | executions =>
      obtain ⟨page, requestedEnd, hmark⟩ :=
        Timeline.isIdle_eq_false_iff.mp (hsound.digests.loading hloading)
      exact hrequested ⟨page, hmark, rfl⟩
  | graphExecutions =>
      obtain ⟨page, requestedEnd, hmark⟩ :=
        Timeline.isIdle_eq_false_iff.mp (hsound.graphExecutions.loading hloading)
      exact hrequested ⟨page, hmark, rfl⟩

/-- Whatever the schedule, everything that the session waits for is pending: the listing
of the runs, each mark of the active run, and a page for pages that are loading. -/
theorem marks_backed (config : Config) (valid : config.Valid) (additions : List Addition)
    (moves : List Move) (hfair : ∀ move ∈ moves, move.IsFair) :
    let simulation := (opening config valid additions).playAll moves
    (simulation.session.runsLoad.isLoading = true → .runs ∈ simulation.pending) ∧
    (∀ mark, simulation.session.scope.Marked mark →
      ∃ (run : RunId) (request : Request), simulation.session.activeRun = some run ∧
        .data run request ∈ simulation.pending ∧ request.Backs mark) ∧
    ∀ kind, (simulation.session.scope.pagesLoad kind).isLoading = true →
      ∃ (run : RunId) (range : Interval), simulation.session.activeRun = some run ∧
        .data run (.page kind range) ∈ simulation.pending := by
  intro simulation
  have hbacked : simulation.Backed :=
    backed_playAll (backed_opening config valid additions) hfair
  refine ⟨hbacked.session.runs, ?_, fun kind hloading => hbacked.pages_requested hloading⟩
  intro mark hmark
  obtain ⟨run, hactive, request, hpending, hbacks⟩ := hbacked.session.marked mark hmark
  exact ⟨run, request, hactive, hpending, hbacks⟩

/-- A page that was fetched for a run before it was selected anew is marked again, and
the mark is backed. -/
theorem marks_backed_after_reselection :
    let simulation := (opening {} (by decide)
      [.run "a" 1, .execution "a" (Sample.execution "Op0" [])]).playAll
      [.send (.activeRunChanged (some "a")), .deliver 0,
        .send (.activeRunChanged (some "a")), .deliver 5]
    simulation.session.scope.Marked (.sequence .executions (.page 0 1)) ∧
      ∃ (run : RunId) (request : Request), simulation.session.activeRun = some run ∧
        .data run request ∈ simulation.pending ∧
        request.Backs (.sequence .executions (.page 0 1)) := by
  intro simulation
  have hmark : simulation.session.scope.executions.digests.view.sequence.inFlight[0]? = some 1 ∧
      0 = 0 * simulation.session.scope.executions.digests.view.sequence.pageSize := by
    decide +kernel
  have hmarked : simulation.session.scope.Marked (.sequence .executions (.page 0 1)) := ⟨0, hmark⟩
  refine ⟨hmarked, (marks_backed {} (by decide)
    [.run "a" 1, .execution "a" (Sample.execution "Op0" [])]
    [.send (.activeRunChanged (some "a")), .deliver 0,
      .send (.activeRunChanged (some "a")), .deliver 5] ?_).2.1 _ hmarked⟩
  simp [Move.IsFair, Event.isUser]

end Simulation

end TraceViewer
