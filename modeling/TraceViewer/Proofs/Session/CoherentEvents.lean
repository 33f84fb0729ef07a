import TraceViewer.Proofs.Session.Backing
import TraceViewer.Proofs.Session.CoherentReplies

/-!
# Events and coherence

A session is coherent with an archive when the scope of its active run is coherent with
the recording of that run.  A session without an active run shows nothing, so nothing is
said of it.

Every event keeps this: what the user does brings no data, selecting a run starts with an
empty scope, and a reply of the archive is about the active run or is not taken up.
-/

namespace TraceViewer.Session

variable {archive : Archive} {session : Session} {pending : List PendingFetch}

/-- What the session holds of its active run is what the archive has of it. -/
def Coherent (archive : Archive) (session : Session) : Prop :=
  ∀ ⦃run : RunId⦄, session.activeRun = some run →
    session.scope.Coherent (archive.recordingOf run)

/-- How long the sequences of the runs of an archive are. -/
abbrev totals (archive : Archive) (run : RunId) : SequenceKind → Nat :=
  (archive.recordingOf run).total

theorem coherent_fresh (config : Config) (valid : config.Valid) (archive : Archive) :
    (fresh config valid).Coherent archive := by
  rintro run ⟨⟩

/-- A change that brings no data. -/
theorem coherent_inRun (hcoherent : session.Coherent archive)
    {change : RunScope → RunId → RunScope × Except ViewError Command}
    (hkeeps : ∀ run, session.activeRun = some run →
      session.scope.Keeps (change session.scope run).1) :
    (session.inRun change).1.Coherent archive := by
  rcases Option.eq_none_or_eq_some session.activeRun with hactive | ⟨run, hactive⟩
  · rw [inRun_of_none hactive]
    exact hcoherent
  · rw [inRun_of_some hactive]
    intro other hother
    exact (hcoherent hother).of_keeps (hkeeps run hactive)

/-- As `coherent_inRun`, for a change that is never refused. -/
theorem coherent_adjustRun (hcoherent : session.Coherent archive)
    {change : RunScope → RunId → RunScope × Command}
    (hkeeps : ∀ run, session.activeRun = some run →
      session.scope.Keeps (change session.scope run).1) :
    (session.adjustRun change).1.Coherent archive :=
  coherent_inRun hcoherent hkeeps

theorem coherent_refresh (hcoherent : session.Coherent archive) :
    session.refresh.1.Coherent archive :=
  coherent_adjustRun hcoherent fun run _ => (session.scope.quiet_refresh run).keeps

/-- Another run starts with an empty scope, and so does the same run when it is selected
again. -/
theorem coherent_changeRun (session : Session) (archive : Archive) (run : Option RunId) :
    (session.changeRun run).1.Coherent archive := by
  refine coherent_refresh ?_
  intro other _
  exact RunScope.coherent_fresh session.config session.config_valid _

theorem coherent_onLineClicked (hcoherent : session.Coherent archive) (frame : StackFrame) :
    (session.onLineClicked frame).Coherent archive :=
  fun _ hactive => (hcoherent hactive).of_keeps (session.scope.quiet_setFocusLine frame).keeps

/-- What the user does without selecting a run brings no data. -/
theorem coherent_userStep (hcoherent : session.Coherent archive)
    (hbacked : session.Backed (totals archive) pending)
    {result : Session × Except ViewError Command} (hstep : session.UserStep result) :
    result.1.Coherent archive := by
  cases hstep with
  | listing => exact hcoherent
  | operate pollOnset operation =>
      have hstarted : { session with pollOnset }.Coherent archive := hcoherent
      exact coherent_inRun hstarted fun run hactive =>
        RunScope.keeps_operate (hbacked.sound_active hactive) run operation
  | click frame => exact coherent_onLineClicked hcoherent frame
  | stick stickyFocus => exact hcoherent

/-- An event of the user brings no data. -/
theorem coherent_reduce_user (hcoherent : session.Coherent archive)
    (hbacked : session.Backed (totals archive) pending) (now : Nat) {event : Event}
    (huser : event.isUser = true) : (session.reduce now event).1.Coherent archive := by
  rcases session.reduce_user now huser with ⟨run, _, hchange⟩ | hstep
  · rw [hchange]
    exact coherent_changeRun session archive run
  · exact coherent_userStep hcoherent hbacked hstep

/-- A reply of the archive about the active run is what the archive has, and one about
another run is not taken up. -/
theorem coherent_onLoaded (hcoherent : session.Coherent archive)
    (hbacked : session.Backed (totals archive) pending)
    (hkeyed : ∀ run, (archive.recordingOf run).Keyed) (now : Nat) {run : RunId}
    {request : Request} {reply : Reply}
    (hreplies : (archive.recordingOf run).Replies request reply) :
    (session.reduce now (.loaded run reply)).1.Coherent archive := by
  by_cases hactive : session.activeRun = some run
  · -- the run stays active, so it is the one whose recording replied
    have hscope : (session.scope.onReply run now reply).1.Coherent (archive.recordingOf run) :=
      RunScope.coherent_onReply (hcoherent hactive) (hbacked.sound_active hactive) (hkeyed run)
        hreplies
    have hsame : ∀ other, session.activeRun = some other → run = other := by
      intro other hother
      rw [hactive, Option.some.injEq] at hother
      exact hother
    rw [reduce, onLoaded, if_pos hactive]
    rcases hreply : session.scope.onReply run now reply with ⟨scope, error | ⟨command, grew⟩⟩
    · rw [hreply] at hscope
      intro other hother
      exact hsame other hother ▸ hscope
    · rw [hreply] at hscope
      intro other hother
      exact hsame other hother ▸ hscope
  · -- a reply about another run is not taken up
    rw [reduce, onLoaded, if_neg hactive]
    exact hcoherent

theorem coherent_onFetchFailed (hcoherent : session.Coherent archive) (now : Nat) (run : RunId)
    (request : Request) :
    (session.reduce now (.fetchFailed run request)).1.Coherent archive := by
  rw [reduce, onFetchFailed]
  split_ifs
  · exact fun _ hactive => (hcoherent hactive).of_keeps
      (session.scope.keeps_onFetchFailed request)
  · exact hcoherent

/-- The outcome of a fetch, as the archive has it now. -/
theorem coherent_reduce_outcome (hcoherent : session.Coherent archive)
    (hbacked : session.Backed (totals archive) pending)
    (hkeyed : ∀ run, (archive.recordingOf run).Keyed) (now : Nat) (fetch : PendingFetch) :
    (session.reduce now (Simulation.outcomeOf archive fetch)).1.Coherent archive := by
  cases fetch with
  | runs =>
      rw [Simulation.outcomeOf]
      rcases DataSource.listRuns archive with error | runs
      · exact hcoherent
      · rw [reduce]
        split_ifs
        · exact hcoherent
        · -- the scope of another run holds nothing yet
          exact coherent_changeRun _ archive runs.minKey?
  | data run request =>
      rcases archive.outcomeOf_data run request with ⟨reply, hreplies, houtcome⟩ | houtcome
      · rw [houtcome]
        exact coherent_onLoaded hcoherent hbacked hkeyed now hreplies
      · rw [houtcome]
        exact coherent_onFetchFailed hcoherent now run request

theorem coherent_settle (hcoherent : session.Coherent archive) :
    session.settle.1.Coherent archive := by
  rcases Option.eq_none_or_eq_some session.activeRun with hactive | ⟨run, hactive⟩
  · rw [settle_of_none hactive]
    exact hcoherent
  · rw [settle_of_some hactive]
    exact fun _ hother => (hcoherent hother).of_keeps
      (session.scope.quiet_settle run session.stickyFocus).keeps

/-- Settling after an event keeps a session coherent. -/
theorem coherent_apply {event : Event} {now : Nat}
    (hreduced : (session.reduce now event).1.Coherent archive) :
    (session.apply event now).1.Coherent archive :=
  apply_induct (motive := fun after _ => after.Coherent archive) hreduced
    (coherent_settle hreduced)

end TraceViewer.Session
