import TraceViewer.Proofs.Session.Acceptance
import TraceViewer.Proofs.Simulation.Backing

/-!
# In step with an archive

A session is in step with an archive when everything pending was asked for by the scope
that it has now (`Session.InStep`).  It gets out of step only when a run is selected while
fetches are pending: the new scope has no list of files, and a file that the scope before
had asked for arrives as one that is not listed.

As long as the archive lists the same run first, and the user selects none, a run is
selected at most once, and nothing of it is pending then.  A session that is in step
refuses no outcome of a fetch (`outcome_accepted`).  So the events that are refused come
from the user, who made one of two mistakes (`reduce_error_iff`): to scroll past the last
full window, or to ask for a file that is not listed.
-/

namespace TraceViewer

namespace Archive

variable {archive : Archive} {addition : Addition} {run : RunId}

/-- A file that is recorded stays recorded. -/
theorem mem_sourceFiles_add (addition : Addition) {file : SourceFile}
    (hfile : file ∈ (archive.recordingOf run).sourceFiles) :
    file ∈ ((archive.add addition).recordingOf run).sourceFiles := by
  rcases archive.recordingOf_add addition run with hsame | ⟨_, hchanged⟩
  · rw [hsame]
    exact hfile
  · rw [hchanged]
    cases addition with
    | file _ name lines => exact Std.ExtTreeMap.mem_insert.mpr (Or.inr hfile)
    | op _ op =>
        change file ∈ (Recording.insertOp _ op).sourceFiles
        rw [Recording.insertOp]
        cases op.graphId? <;> exact hfile
    | _ => exact hfile

end Archive

namespace Session

variable {limit : RunId → SequenceKind → Nat} {session after : Session} {archive : Archive}
  {pending rest queue : List PendingFetch} {error : ViewError}

/-! ## Mistakes of the user -/

/-- The events of the user that are refused, each with the reason. -/
inductive Mistake (session : Session) : Event → ViewError → Prop where
  /-- The window would start past the last full one. -/
  | outOfRange {run : RunId} (active : session.activeRun = some run) (kind : SequenceKind)
      (index : Nat)
      (past : (session.scope.window kind).maxScrollBegin (session.scope.numItems kind) < index) :
      Mistake session (.scrollToIndex kind index)
        (.outOfRange index
          ((session.scope.window kind).maxScrollBegin (session.scope.numItems kind)))
  /-- The file is not listed, so there is no place for its content. -/
  | unknownSourceFile {run : RunId} (active : session.activeRun = some run) (file : SourceFile)
      (unlisted : session.scope.sources.content? file = none) :
      Mistake session (.sourceFileRequested file) (.unknownSourceFile file)

theorem inRun_error_iff {change : RunScope → RunId → RunScope × Except ViewError Command} :
    (session.inRun change).2 = .error error ↔
      ∃ run, session.activeRun = some run ∧ (change session.scope run).2 = .error error := by
  rcases Option.eq_none_or_eq_some session.activeRun with hactive | ⟨run, hactive⟩
  · simp [inRun_of_none hactive, hactive]
  · simp [inRun_of_some hactive, hactive]

theorem scroll_error_iff (hshaped : session.Shaped) {run : RunId} {kind : SequenceKind}
    {step : ScrollStep} :
    (session.scope.scroll run kind step).2 = .error error ↔
      ∃ index, step = .toIndex index ∧
        (session.scope.window kind).maxScrollBegin (session.scope.numItems kind) < index ∧
        error = .outOfRange index
          ((session.scope.window kind).maxScrollBegin (session.scope.numItems kind)) := by
  cases kind with
  | executions =>
      exact Timeline.scroll_error_iff (PagedView.fits_of_valid (hshaped.valid .executions))
  | graphExecutions =>
      exact Timeline.scroll_error_iff (PagedView.fits_of_valid (hshaped.valid .graphExecutions))

theorem requestFile_error_iff {scope : RunScope} {run : RunId} {file : SourceFile} :
    (scope.requestFile run file).2 = .error error ↔
      scope.sources.content? file = none ∧ error = .unknownSourceFile file := by
  rw [← SourceShelf.requestFile_error_iff, RunScope.requestFile]
  rcases scope.sources.requestFile file with refusal | ⟨sources, wanted⟩ <;> simp

/-- An event of the user is refused exactly when it is a mistake. -/
theorem reduce_error_iff (hshaped : session.Shaped) {event : Event} (huser : event.isUser = true)
    (now : Nat) : (session.reduce now event).2 = .error error ↔ session.Mistake event error := by
  constructor
  · intro hrefused
    cases event with
    | activeRunChanged run => exact (changeRun_accepted run (Prod.ext rfl hrefused)).elim
    | scrollLeft | scrollRight =>
        obtain ⟨run, _, hscroll⟩ := inRun_error_iff.mp hrefused
        -- a step aside stays in the sequence and is not refused
        obtain ⟨index, hstep, _⟩ := (scroll_error_iff hshaped).mp hscroll
        cases hstep
    | scrollToIndex kind index =>
        obtain ⟨run, hactive, hscroll⟩ := inRun_error_iff.mp hrefused
        obtain ⟨_, hstep, hpast, rfl⟩ := (scroll_error_iff hshaped).mp hscroll
        cases hstep
        exact .outOfRange hactive kind index hpast
    | alertTypeFocusToggled alertType =>
        obtain ⟨run, _, htoggle⟩ := inRun_error_iff.mp hrefused
        exact (RunScope.toggleAlerts_accepted hshaped.valid alertType (Prod.ext rfl htoggle)).elim
    | sourceFileRequested file =>
        obtain ⟨run, hactive, hrequest⟩ := inRun_error_iff.mp hrefused
        obtain ⟨hunlisted, rfl⟩ := requestFile_error_iff.mp hrequest
        exact .unknownSourceFile hactive file hunlisted
    | pollStarted | refresh | focusByDisplayOffset | graphOpFocused | graphOpInfoRequested =>
        exact (adjustRun_accepted (Prod.ext rfl hrefused)).elim
    | runsRequested | sourceLineClicked | stickyFocusSet => cases hrefused
    | runsLoaded | runsFailed | loaded | fetchFailed => cases huser
  · intro hmistake
    cases hmistake with
    | outOfRange hactive kind index hpast =>
        exact inRun_error_iff.mpr
          ⟨_, hactive, (scroll_error_iff hshaped).mpr ⟨index, rfl, hpast, rfl⟩⟩
    | unknownSourceFile hactive file hunlisted =>
        exact inRun_error_iff.mpr ⟨_, hactive, requestFile_error_iff.mpr ⟨hunlisted, rfl⟩⟩

/-! ## Being in step -/

/-- Everything pending was asked for by the present scope, of the run that the archive
lists first. -/
structure InStep (archive : Archive) (pending : List PendingFetch) (session : Session) :
    Prop where
  listed : ∀ run, session.activeRun = some run → archive.listing.minKey? = some run
  /-- Only things of the active run are pending. -/
  alone : ∀ run request, .data run request ∈ pending → session.activeRun = some run
  answerable : Answerable session.scope.sources.files pending
  /-- What is listed is recorded. -/
  recorded : ∀ run, session.activeRun = some run →
    ∀ file ∈ session.scope.sources.files, file ∈ (archive.recordingOf run).sourceFiles

theorem inStep_fresh (config : Config) (valid : config.Valid) :
    (fresh config valid).InStep archive [] where
  listed := by
    rintro run ⟨⟩
  alone := by
    rintro run request ⟨⟩
  answerable := answerable_nil
  recorded := by
    rintro run ⟨⟩

theorem InStep.add (hstep : session.InStep archive pending) {addition : Addition}
    (hlisting : (archive.add addition).listing = archive.listing) :
    session.InStep (archive.add addition) pending where
  listed := by
    rw [hlisting]
    exact hstep.listed
  alone := hstep.alone
  answerable := hstep.answerable
  recorded := fun run hactive file hfile =>
    Archive.mem_sourceFiles_add addition (hstep.recorded run hactive file hfile)

/-- A session that has the same run and lists the same files, and asks for more. -/
theorem InStep.follows (hstep : session.InStep archive pending)
    (hactive : after.activeRun = session.activeRun)
    (hfiles : after.scope.sources.files = session.scope.sources.files) (hsub : rest ⊆ pending)
    (hasks : session.Asks limit queue) (hanswerable : Answerable session.scope.sources.files queue) :
    after.InStep archive (rest ++ queue) where
  listed := by
    rw [hactive]
    exact hstep.listed
  alone := by
    intro run request hmem
    rw [hactive]
    rcases List.mem_append.mp hmem with hold | hnew
    · exact hstep.alone run request (hsub hold)
    · -- what is asked for is asked of the active run
      obtain ⟨_, _, heq, hasked, _⟩ := hasks _ hnew
      cases heq
      exact hasked
  answerable := by
    rw [hfiles]
    exact (hstep.answerable.of_subset hsub).append hanswerable
  recorded := by
    rw [hactive, hfiles]
    exact hstep.recorded

/-- Nothing is asked for. -/
theorem InStep.same (hstep : session.InStep archive pending)
    (hactive : after.activeRun = session.activeRun)
    (hfiles : after.scope.sources.files = session.scope.sources.files) (hsub : rest ⊆ pending) :
    after.InStep archive (rest ++ Command.none.queue) :=
  have hasks : session.Asks (fun _ _ => 0) Command.none.queue := asks_nil
  hstep.follows hactive hfiles hsub hasks answerable_nil

/-- The run that is listed first is selected while nothing of any run is pending. -/
theorem inStep_changeRun {run : RunId} (hlisted : archive.listing.minKey? = some run)
    (hidle : ∀ other request, .data other request ∉ pending) (session : Session) :
    (session.changeRun (some run)).1.InStep archive
      (pending ++ Command.queueOf (session.changeRun (some run)).2) := by
  have hchanged : session.changeRun (some run) =
      ({ session with
          activeRun := some run
          scope := ((RunScope.fresh session.config session.config_valid).refresh run).1 },
        .ok ((RunScope.fresh session.config session.config_valid).refresh run).2) := rfl
  have hasks : (session.changeRun (some run)).1.Asks (fun _ _ => 0) _ :=
    asks_changeRun session (some run)
  rw [hchanged] at hasks ⊢
  exact
    { listed := by
        rintro other ⟨⟩
        exact hlisted
      alone := by
        intro other request hmem
        rcases List.mem_append.mp hmem with hold | hnew
        · exact absurd hold (hidle other request)
        · obtain ⟨_, _, heq, hasked, _⟩ := hasks _ hnew
          cases heq
          exact hasked
      answerable := by
        intro other request hmem
        rcases List.mem_append.mp hmem with hold | hnew
        · exact absurd hold (hidle other request)
        · exact RunScope.answerable_refresh _ run other request hnew
      recorded := by
        intro _ _ file hfile
        exact absurd hfile List.not_mem_nil }

/-! ## Events of the user -/

theorem inStep_inRun (hstep : session.InStep archive pending) (hshaped : session.Shaped)
    {change : RunScope → RunId → RunScope × Except ViewError Command}
    (hchange : ∀ run, session.activeRun = some run →
      (change session.scope run).1.sources.files = session.scope.sources.files ∧
        Addressed session.scope.geometry (limit run) run
          (Command.queueOf (change session.scope run).2) ∧
        Answerable session.scope.sources.files (Command.queueOf (change session.scope run).2)) :
    (session.inRun change).1.InStep archive
      (pending ++ Command.queueOf (session.inRun change).2) := by
  rcases Option.eq_none_or_eq_some session.activeRun with hactive | ⟨run, hactive⟩
  · rw [inRun_of_none hactive]
    exact hstep.same rfl rfl (List.Subset.refl _)
  · obtain ⟨hfiles, haddressed, hanswerable⟩ := hchange run hactive
    rw [hshaped] at haddressed
    rw [inRun_of_some hactive]
    exact hstep.follows rfl hfiles (List.Subset.refl _) (asks_of_addressed hactive haddressed)
      hanswerable

theorem inStep_reduce_user (hstep : session.InStep archive pending)
    (hbacked : session.Backed limit pending) (hshaped : session.Shaped) (now : Nat) {event : Event}
    (huser : event.isUser = true) (hstays : ∀ run, event ≠ .activeRunChanged run) :
    (session.reduce now event).1.InStep archive
      (pending ++ Command.queueOf (session.reduce now event).2) := by
  rcases session.reduce_user now huser with ⟨run, hselects, _⟩ | huserStep
  · exact absurd hselects (hstays run)
  generalize session.reduce now event = result at huserStep
  cases huserStep with
  | listing =>
      have hmem : ∀ run request, .data run request ∈ pending ++ [.runs] →
          .data run request ∈ pending := by
        intro run request hmem
        simpa using hmem
      exact ⟨hstep.listed, fun run request hdata => hstep.alone run request (hmem _ _ hdata),
        fun run request hdata => hstep.answerable run request (hmem _ _ hdata), hstep.recorded⟩
  | operate pollOnset operation =>
      have hstarted : { session with pollOnset }.InStep archive pending :=
        ⟨hstep.listed, hstep.alone, hstep.answerable, hstep.recorded⟩
      have hshaped' : { session with pollOnset }.Shaped := hshaped
      exact inStep_inRun hstarted hshaped' fun run hactive =>
        have hsound := hbacked.sound_active hactive
        ⟨(RunScope.keeps_operate hsound run operation).files_eq,
          RunScope.addressed_operate hsound run operation,
          RunScope.answerable_operate hsound run operation⟩
  | click frame => exact hstep.same rfl rfl (List.Subset.refl _)
  | stick stickyFocus => exact hstep.same rfl rfl (List.Subset.refl _)

/-! ## Outcomes of fetches -/

/-- A reply for the active run is taken up by its scope. -/
theorem reduce_loaded {run : RunId} (hactive : session.activeRun = some run) (reply : Reply)
    (now : Nat) :
    (session.reduce now (.loaded run reply)).1.scope = (session.scope.onReply run now reply).1 ∧
      (session.reduce now (.loaded run reply)).1.activeRun = session.activeRun ∧
      Command.queueOf (session.reduce now (.loaded run reply)).2 =
        Command.queueOf ((session.scope.onReply run now reply).2.map Prod.fst) := by
  rw [reduce, onLoaded, if_pos hactive]
  rcases session.scope.onReply run now reply with ⟨scope, error | ⟨command, grew⟩⟩ <;>
    exact ⟨rfl, rfl, rfl⟩

theorem inStep_reduce_failure (hstep : session.InStep archive pending) (fetch : PendingFetch)
    (hsub : rest ⊆ pending) (now : Nat) :
    (session.reduce now (Simulation.failureOf fetch)).1.InStep archive
      (rest ++ Command.queueOf (session.reduce now (Simulation.failureOf fetch)).2) := by
  cases fetch with
  | runs => exact hstep.same rfl rfl hsub
  | data run request =>
      rw [Simulation.failureOf, reduce, onFetchFailed]
      split_ifs
      · exact hstep.same rfl (session.scope.keeps_onFetchFailed request).files_eq hsub
      · exact hstep.same rfl rfl hsub

/-- The listing selects its first run when no run was selected, and leaves it then. -/
theorem inStep_reduce_runs (hstep : session.InStep archive pending) (hsub : rest ⊆ pending)
    (now : Nat) :
    (session.reduce now (Simulation.outcomeOf archive .runs)).1.InStep archive
      (rest ++ Command.queueOf (session.reduce now (Simulation.outcomeOf archive .runs)).2) := by
  cases hoffline : archive.offline with
  | true =>
      have hruns : DataSource.listRuns archive = .error Archive.offlineError :=
        if_pos hoffline
      rw [Simulation.outcomeOf, hruns]
      exact inStep_reduce_failure hstep .runs hsub now
  | false =>
      have hruns : DataSource.listRuns archive = .ok archive.listing :=
        Archive.listRuns_of_online hoffline
      rw [Simulation.outcomeOf, hruns]
      dsimp only
      rw [reduce]
      split_ifs with hsame
      · exact hstep.same rfl rfl hsub
      · -- no run was active, since an active one is listed first
        have hnone : session.activeRun = none := by
          rcases Option.eq_none_or_eq_some session.activeRun with hnone | ⟨run, hactive⟩
          · exact hnone
          · exact absurd ((hstep.listed run hactive).trans hactive.symm) hsame
        rw [hnone] at hsame
        obtain ⟨run, hfirst⟩ := Option.ne_none_iff_exists'.mp hsame
        rw [hfirst]
        refine inStep_changeRun hfirst (fun other request hmem => ?_) _
        have hactive := hstep.alone other request (hsub hmem)
        rw [hnone] at hactive
        cases hactive

theorem inStep_reduce_reply (hstep : session.InStep archive pending)
    (hbacked : session.Backed (fun run => (archive.recordingOf run).total) pending)
    (hshaped : session.Shaped) {run : RunId} {request : Request} {reply : Reply}
    (hreplies : (archive.recordingOf run).Replies request reply) (hsub : rest ⊆ pending)
    (now : Nat) :
    (session.reduce now (.loaded run reply)).1.InStep archive
      (rest ++ Command.queueOf (session.reduce now (.loaded run reply)).2) := by
  by_cases hactive : session.activeRun = some run
  · obtain ⟨hscope, hsame, hqueue⟩ := reduce_loaded hactive reply now
    have hsound := hbacked.sound_active hactive
    have hreply := Archive.sound_of_replies hreplies
    have haddressed := RunScope.addressed_onReply hsound hreply run now
    rw [hshaped] at haddressed
    have hasks : session.Asks (fun run => (archive.recordingOf run).total) _ :=
      asks_of_addressed hactive haddressed
    rw [hqueue]
    by_cases hlist : ∃ files, reply = .sourceFileList files
    · obtain ⟨files, rfl⟩ := hlist
      cases hreplies
      -- the new list has every file of the old one
      have hlonger : session.scope.sources.files ⊆ (archive.recordingOf run).sourceFiles.keys :=
        fun file hfile => Std.ExtTreeMap.mem_keys.mpr (hstep.recorded run hactive file hfile)
      have hkept : session.InStep archive (rest ++ Command.none.queue) :=
        hstep.same rfl rfl hsub
      exact
        { listed := by
            rw [hsame]
            exact hstep.listed
          alone := by
            rw [hsame]
            exact hkept.alone
          answerable := by
            rw [hscope]
            exact hkept.answerable.mono hlonger
          recorded := by
            rw [hsame, hactive, hscope]
            rintro _ ⟨⟩ file hfile
            exact Std.ExtTreeMap.mem_keys.mp hfile }
    · refine hstep.follows hsame ?_ hsub hasks (RunScope.answerable_onReply hsound hreply run now)
      rw [hscope]
      exact session.scope.files_onReply run now fun files heq => hlist ⟨files, heq⟩
  · rw [reduce, onLoaded, if_neg hactive]
    exact hstep.same rfl rfl hsub

/-- What becomes of a fetch leaves the session in step, whether the fetch stays in the
queue or not. -/
theorem inStep_reduce_outcome (hstep : session.InStep archive pending)
    (hbacked : session.Backed (fun run => (archive.recordingOf run).total) pending)
    (hshaped : session.Shaped) (fetch : PendingFetch) (hsub : rest ⊆ pending) (now : Nat) :
    (session.reduce now (Simulation.outcomeOf archive fetch)).1.InStep archive
      (rest ++ Command.queueOf (session.reduce now (Simulation.outcomeOf archive fetch)).2) := by
  cases fetch with
  | runs => exact inStep_reduce_runs hstep hsub now
  | data run request =>
      rcases archive.outcomeOf_data run request with ⟨reply, hreplies, houtcome⟩ | houtcome <;>
        rw [houtcome]
      · exact inStep_reduce_reply hstep hbacked hshaped hreplies hsub now
      · exact inStep_reduce_failure hstep (.data run request) hsub now

/-! ## Settling -/

theorem inStep_settle (hstep : session.InStep archive pending)
    (hbacked : session.Backed limit pending) :
    session.settle.1.InStep archive (pending ++ session.settle.2.queue) := by
  rcases Option.eq_none_or_eq_some session.activeRun with hactive | ⟨run, hactive⟩
  · rw [settle_of_none hactive]
    exact hstep.same rfl rfl (List.Subset.refl _)
  · rw [settle_of_some hactive]
    exact hstep.follows rfl (session.scope.quiet_settle run session.stickyFocus).data.files_eq
      (List.Subset.refl _)
      (asks_of_addressed hactive
        (RunScope.addressed_settle (hbacked.sound_active hactive) run session.stickyFocus _))
      (session.scope.answerable_settle run session.stickyFocus)

theorem inStep_apply {event : Event} {now : Nat}
    (hbacked : (session.reduce now event).1.Backed limit
      (pending ++ Command.queueOf (session.reduce now event).2))
    (hreduced : (session.reduce now event).1.InStep archive
      (pending ++ Command.queueOf (session.reduce now event).2)) :
    (session.apply event now).1.InStep archive
      (pending ++ Command.queueOf (session.apply event now).2) := by
  refine apply_induct (motive := fun after queue => after.InStep archive (pending ++ queue))
    hreduced ?_
  rw [← List.append_assoc]
  exact inStep_settle hreduced hbacked

/-! ## Outcomes are accepted -/

/-- A session that is in step accepts what becomes of a pending fetch. -/
theorem outcome_accepted (hstep : session.InStep archive pending)
    (hbacked : session.Backed (fun run => (archive.recordingOf run).total) pending)
    (hshaped : session.Shaped) (hkeyed : ∀ run, (archive.recordingOf run).Keyed)
    {fetch : PendingFetch} (hpending : fetch ∈ pending)
    (hproper : fetch.Proper session.config.geometry fun run => (archive.recordingOf run).total)
    (now : Nat) :
    session.reduce now (Simulation.outcomeOf archive fetch) ≠ (after, .error error) := by
  intro hrefused
  cases fetch with
  | runs =>
      rw [Simulation.outcomeOf] at hrefused
      rcases hruns : DataSource.listRuns archive with refusal | runs <;> rw [hruns] at hrefused
      · cases hrefused
      · dsimp only at hrefused
        rw [reduce] at hrefused
        split_ifs at hrefused
        · cases hrefused
        · exact changeRun_accepted _ hrefused
  | data run request =>
      rcases archive.outcomeOf_data run request with ⟨reply, hreplies, houtcome⟩ | houtcome <;>
        rw [houtcome, reduce] at hrefused
      · have hactive := hstep.alone run request hpending
        rw [onLoaded, if_pos hactive] at hrefused
        rcases hreply : session.scope.onReply run now reply with ⟨scope, refusal | result⟩ <;>
          rw [hreply] at hrefused <;> cases hrefused
        exact RunScope.onReply_accepted (hkeyed run) (hbacked.sound_active hactive) hshaped.valid
          (hshaped ▸ hproper) (hstep.answerable run request hpending) hreplies now hreply
      · cases hrefused

/-- A failure is never refused. -/
theorem failure_accepted (fetch : PendingFetch) (now : Nat) :
    session.reduce now (Simulation.failureOf fetch) ≠ (after, .error error) := by
  cases fetch <;> rintro ⟨⟩

end Session

end TraceViewer
