import TraceViewer.Proofs.Session.InStep
import TraceViewer.Proofs.Session.PageOrders

/-!
# Selecting a run

A session tells the answers of fetches apart by their run, and by nothing else.  While
another run is active, an answer is dropped (`drops_loaded`, `drops_fetchFailed`).  Once its
run is active again, it is taken up, although the scope that asked is gone.  A session
refuses such an answer only when it brings a file that the new scope has not listed yet
(`unlisted_of_refused`).

What an event leaves of the orders of a scope depends on where it comes from.

* Selecting a run starts with no orders and no strays (`orderly_changeRun`).
* Other events of the user enter what they ask for (`orderly_userStep`).
* The outcome of a page fetch answers the order of the fetch if the scope made it
  (`orderly_reduce_own`), and is a stray if an earlier scope did (`orderly_reduce_stray`).
* All other outcomes enter what is asked for because of them (`orderly_reduce_other`).

Settling comes after any of these and asks for no page (`orderly_apply`).
-/

namespace TraceViewer

/-! ## Outcomes -/

/-- What an archive may give for the outcome of a fetch. -/
inductive Archive.Gives (archive : Archive) : PendingFetch → Event → Prop where
  | runsLoaded (runs : RunListing) : Gives archive .runs (.runsLoaded runs)
  | runsFailed : Gives archive .runs .runsFailed
  | loaded {run : RunId} {request : Request} {reply : Reply}
      (replies : (archive.recordingOf run).Replies request reply) :
      Gives archive (.data run request) (.loaded run reply)
  | fetchFailed (run : RunId) (request : Request) :
      Gives archive (.data run request) (.fetchFailed run request)

namespace Archive

variable {archive : Archive} {fetch : PendingFetch} {event : Event}

theorem gives_outcomeOf (archive : Archive) (fetch : PendingFetch) :
    archive.Gives fetch (Simulation.outcomeOf archive fetch) := by
  cases fetch with
  | runs =>
      rw [Simulation.outcomeOf]
      rcases DataSource.listRuns archive with error | runs
      · exact .runsFailed
      · exact .runsLoaded runs
  | data run request =>
      rcases archive.outcomeOf_data run request with ⟨reply, hreplies, houtcome⟩ | houtcome <;>
        rw [houtcome]
      · exact .loaded hreplies
      · exact .fetchFailed run request

theorem gives_failureOf (archive : Archive) (fetch : PendingFetch) :
    archive.Gives fetch (Simulation.failureOf fetch) := by
  cases fetch with
  | runs => exact .runsFailed
  | data run request => exact .fetchFailed run request

theorem Gives.answers (hgives : archive.Gives fetch event)
    (hkeyed : ∀ run, (archive.recordingOf run).Keyed) :
    fetch.Answers (fun run => (archive.recordingOf run).total) event := by
  cases hgives with
  | runsLoaded runs => exact .runsLoaded runs
  | runsFailed => exact .runsFailed
  | @loaded run request reply hreplies =>
      exact .loaded (sound_of_replies hreplies) fun _ hwithin hbacks =>
        clears_of_replies (hkeyed run) hreplies hwithin hbacks
  | fetchFailed run request => exact .fetchFailed run request

end Archive

theorem SourceShelf.onFileLoaded_error {shelf : SourceShelf} {file : SourceFile}
    {lines : List String} {error : ViewError}
    (hrefused : shelf.onFileLoaded file lines = .error error) :
    error = .unknownSourceFile file :=
  (modifyContent_eq_error_iff.mp hrefused).2

/-- Whether a request is a proper one, and answerable while some files are listed. -/
def Request.Posed (geometry : SequenceKind → Geometry) (limit : SequenceKind → Nat)
    (request : Request) : Prop :=
  request.Proper geometry limit ∧ ∃ files, request.Answerable files

theorem Request.Posed.mono {geometry : SequenceKind → Geometry} {limit more : SequenceKind → Nat}
    {request : Request} (hposed : request.Posed geometry limit)
    (hle : ∀ kind, limit kind ≤ more kind) : request.Posed geometry more :=
  ⟨hposed.1.mono hle, hposed.2⟩

namespace Session

variable {archive : Archive} {session : Session} {pending : List PendingFetch} {run : RunId}
  {orders : List Order} {strays : List Interval} {kind : SequenceKind}

/-! ## Answers for other runs -/

/-- Whether a session takes nothing from an event: it only settles, and after a failed fetch
not even that. -/
def Drops (session : Session) (event : Event) (now : Nat) : Prop :=
  session.apply event now =
    if event.isFetchFailure then (session, .ok .none)
    else (session.settle.1, .ok (.combine [.none, session.settle.2]))

theorem reduce_loaded_inactive (hinactive : session.activeRun ≠ some run) (reply : Reply)
    (now : Nat) : session.reduce now (.loaded run reply) = (session, .ok .none) :=
  if_neg hinactive

theorem drops_loaded (hinactive : session.activeRun ≠ some run) (reply : Reply) (now : Nat) :
    session.Drops (.loaded run reply) now :=
  apply_of_ok (reduce_loaded_inactive hinactive reply now) rfl

theorem drops_fetchFailed (hinactive : session.activeRun ≠ some run) (request : Request)
    (now : Nat) : session.Drops (.fetchFailed run request) now := by
  have hdropped : session.onFetchFailed run request = session := if_neg hinactive
  have hfailure : session.apply (.fetchFailed run request) now =
      (session.onFetchFailed run request, .ok .none) := apply_of_failure rfl
  rw [hdropped] at hfailure
  exact hfailure

/-! ## Answers for the active run -/

/-- Settling refuses nothing, so it is the event itself that is refused. -/
theorem reduce_of_refused {event : Event} {now : Nat} {error : ViewError}
    (hrefused : (session.apply event now).2 = .error error) :
    ∃ after, session.reduce now event = (after, .error error) := by
  rcases session.apply_cases event now with hsame | ⟨_, _, _, hsettled⟩
  · rw [hsame] at hrefused
    exact ⟨_, Prod.ext rfl hrefused⟩
  · rw [hsettled] at hrefused
    cases hrefused

/-- Of all that can come of a proper fetch, only a file that is not listed is refused. -/
theorem unlisted_of_refused {after : Session} {error : ViewError} {fetch : PendingFetch}
    {event : Event} (hbacked : session.Backed (fun run => (archive.recordingOf run).total) pending)
    (hshaped : session.Shaped) (hkeyed : ∀ run, (archive.recordingOf run).Keyed)
    (hgives : archive.Gives fetch event)
    (hposed : ∀ run request, fetch = .data run request →
      request.Posed session.config.geometry (archive.recordingOf run).total) {now : Nat}
    (hrefused : session.reduce now event = (after, .error error)) :
    ∃ run file, fetch = .data run (.sourceFile file) ∧ session.activeRun = some run ∧
      file ∉ session.scope.sources.files ∧ error = .unknownSourceFile file := by
  cases hgives with
  | runsLoaded runs =>
      rw [reduce] at hrefused
      split_ifs at hrefused
      · cases hrefused
      · exact absurd hrefused (changeRun_accepted _)
  | runsFailed => cases hrefused
  | fetchFailed => cases hrefused
  | @loaded run request reply hreplies =>
      by_cases hactive : session.activeRun = some run
      · rw [reduce, onLoaded, if_pos hactive] at hrefused
        rcases hreply : session.scope.onReply run now reply with ⟨scope, refusal | result⟩ <;>
          rw [hreply] at hrefused <;> cases hrefused
        obtain ⟨hproper, files, hanswerable⟩ := hposed run request rfl
        have hnever : ¬ request.Answerable session.scope.sources.files := fun hlisted =>
          RunScope.onReply_accepted (hkeyed run) (hbacked.sound_active hactive) hshaped.valid
            (hshaped ▸ hproper) hlisted hreplies now hreply
        -- any other request is answerable whatever is listed
        cases request with
        | sourceFile file =>
            refine ⟨run, file, rfl, hactive, hnever, ?_⟩
            cases hreplies
            rw [RunScope.onReply] at hreply
            split at hreply <;> cases hreply
            next hloaded => exact SourceShelf.onFileLoaded_error hloaded
        | _ => exact absurd hanswerable hnever
      · rw [reduce_loaded_inactive hactive] at hrefused
        cases hrefused

/-! ## What is asked for -/

/-- Whether all requests of a queue are posed to the active run. -/
def Poses (limit : RunId → SequenceKind → Nat) (session : Session) (queue : List PendingFetch) :
    Prop :=
  ∀ run request, .data run request ∈ queue → session.activeRun = some run ∧
    request.Posed session.config.geometry (limit run)

section Poses

variable {limit : RunId → SequenceKind → Nat} {queue : List PendingFetch}

theorem Asks.poses (hasks : session.Asks limit queue) (files : List SourceFile)
    (hanswerable : Answerable files queue) : session.Poses limit queue := by
  intro run request hmem
  obtain ⟨_, _, heq, hactive, hproper⟩ := hasks _ hmem
  cases heq
  exact ⟨hactive, hproper, files, hanswerable run request hmem⟩

theorem answerable_inRun {files : List SourceFile}
    {change : RunScope → RunId → RunScope × Except ViewError Command}
    (hchange : ∀ run, session.activeRun = some run →
      Answerable files (Command.queueOf (change session.scope run).2)) :
    Answerable files (Command.queueOf (session.inRun change).2) := by
  rcases Option.eq_none_or_eq_some session.activeRun with hactive | ⟨run, hactive⟩
  · rw [inRun_of_none hactive]
    exact answerable_nil
  · rw [inRun_of_some hactive]
    exact hchange run hactive

theorem poses_changeRun (session : Session) (run : Option RunId) :
    (session.changeRun run).1.Poses limit (Command.queueOf (session.changeRun run).2) :=
  (asks_changeRun session run).poses []
    (answerable_inRun fun run _ => RunScope.answerable_refresh _ run)

theorem poses_reduce_user (hshaped : session.Shaped) (hbacked : session.Backed limit pending)
    (now : Nat) {event : Event} (huser : event.isUser = true) :
    (session.reduce now event).1.Poses limit
      (Command.queueOf (session.reduce now event).2) := by
  rcases asks_reduce_user hshaped hbacked now huser with hlisting | hasks
  · rw [hlisting]
    intro run request hmem
    cases List.mem_singleton.mp hmem
  · rcases session.reduce_user now huser with ⟨run, _, hchange⟩ | hstep
    · rw [hchange]
      exact poses_changeRun session run
    · -- the files that are asked for are listed at the time
      refine hasks.poses session.scope.sources.files ?_
      generalize session.reduce now event = result at hstep
      cases hstep with
      | listing =>
          intro run request hmem
          cases List.mem_singleton.mp hmem
      | operate pollOnset operation =>
          exact answerable_inRun fun run hactive =>
            RunScope.answerable_operate (hbacked.sound_active hactive) run operation
      | click | stick => exact answerable_nil

theorem poses_reduce_outcome (hshaped : session.Shaped)
    (hbacked : session.Backed (fun run => (archive.recordingOf run).total) pending)
    (hkeyed : ∀ run, (archive.recordingOf run).Keyed) {fetch : PendingFetch} {event : Event}
    (hgives : archive.Gives fetch event) (now : Nat) :
    (session.reduce now event).1.Poses (fun run => (archive.recordingOf run).total)
      (Command.queueOf (session.reduce now event).2) := by
  have hasks := asks_reduce_answer hshaped hbacked now (hgives.answers hkeyed)
  cases hgives with
  | runsLoaded runs =>
      rw [reduce] at hasks ⊢
      split_ifs at hasks ⊢
      · exact hasks.poses [] answerable_nil
      · exact poses_changeRun _ runs.minKey?
  | runsFailed => exact hasks.poses [] answerable_nil
  | fetchFailed => exact hasks.poses [] answerable_nil
  | @loaded run request reply hreplies =>
      by_cases hactive : session.activeRun = some run
      · obtain ⟨_, _, hqueue⟩ := reduce_loaded hactive reply now
        refine hasks.poses [] ?_
        rw [hqueue]
        exact RunScope.answerable_onReply (hbacked.sound_active hactive)
          (Archive.sound_of_replies hreplies) run now
      · rw [reduce_loaded_inactive hactive] at hasks ⊢
        exact hasks.poses [] answerable_nil

theorem poses_settle (hbacked : session.Backed limit pending) :
    session.settle.1.Poses limit session.settle.2.queue := by
  refine (asks_settle hbacked).poses session.scope.sources.files ?_
  rcases Option.eq_none_or_eq_some session.activeRun with hactive | ⟨run, hactive⟩
  · rw [settle_of_none hactive]
    exact answerable_nil
  · rw [settle_of_some hactive]
    exact session.scope.answerable_settle run session.stickyFocus

theorem poses_apply {event : Event} {now : Nat}
    (hbacked : (session.reduce now event).1.Backed limit pending)
    (hreduced : (session.reduce now event).1.Poses limit
      (Command.queueOf (session.reduce now event).2)) :
    (session.apply event now).1.Poses limit (Command.queueOf (session.apply event now).2) := by
  intro run request hmem
  refine forall_queue_apply (motive := fun active config fetch => ∀ run request,
    fetch = .data run request → active = some run ∧ request.Posed config.geometry (limit run))
    ?_ ?_ (.data run request) hmem run request rfl
  · rintro _ hfirst run request rfl
    exact hreduced run request hfirst
  · rintro _ hfurther run request rfl
    exact poses_settle hbacked run request hfurther

end Poses

/-! ## Selecting -/

/-- Whether an event makes the session select a run, or none, and start anew. -/
def selects (session : Session) : Event → Bool
  | .activeRunChanged _ => true
  | .runsLoaded runs => runs.minKey? != session.activeRun
  | _ => false

theorem reduce_of_selects {event : Event} (hselects : session.selects event = true) (now : Nat) :
    ∃ (before : Session) (run : Option RunId), session.reduce now event = before.changeRun run := by
  cases event with
  | activeRunChanged run => exact ⟨session, run, rfl⟩
  | runsLoaded runs =>
      have hother : runs.minKey? ≠ session.activeRun := bne_iff_ne.mp hselects
      refine ⟨{ session with runs, runsLoad := session.runsLoad.finish now }, runs.minKey?, ?_⟩
      rw [reduce, if_neg hother]
  | _ => cases hselects

/-- Every other event leaves the active run. -/
theorem activeRun_of_not_selects {event : Event} (hstays : session.selects event = false)
    (now : Nat) : (session.reduce now event).1.activeRun = session.activeRun := by
  by_cases huser : event.isUser = true
  · refine activeRun_reduce_user huser (fun run heq => ?_) now
    rw [heq] at hstays
    cases hstays
  · cases event with
    | runsLoaded runs =>
        -- a listing that keeps its first run selects nothing
        have hsame : runs.minKey? = session.activeRun := by simpa [selects] using hstays
        rw [reduce, if_pos hsame]
    | runsFailed => rfl
    | loaded run reply =>
        by_cases hactive : session.activeRun = some run
        · exact (reduce_loaded hactive reply now).2.1
        · rw [reduce, onLoaded, if_neg hactive]
    | fetchFailed run request =>
        rw [reduce, onFetchFailed]
        split_ifs <;> rfl
    | _ => exact absurd rfl huser

/-! ## Orders of the active run -/

/-- The recording of the active run, empty when no run is active. -/
def recordingIn (archive : Archive) (session : Session) : Recording :=
  (session.activeRun.map archive.recordingOf).getD {}

theorem recordingIn_of_active (hactive : session.activeRun = some run) :
    session.recordingIn archive = archive.recordingOf run := by
  rw [recordingIn, hactive]
  rfl

/-- The orders of a sequence of the active run, and the strays that have reached it. -/
def Orderly (archive : Archive) (session : Session) (orders : List Order)
    (strays : List Interval) (kind : SequenceKind) : Prop :=
  session.scope.Orderly (session.recordingIn archive) orders strays kind

/-- What was seen of the active run is recorded. -/
theorem Backed.sound_recording
    (hbacked : session.Backed (fun run => (archive.recordingOf run).total) pending) :
    session.scope.Sound (session.recordingIn archive).total := by
  refine hbacked.sound.mono fun kind => ?_
  rw [recordingIn]
  cases session.activeRun with
  | none => exact Nat.zero_le _
  | some run => exact Nat.le_refl _

theorem Orderly.of_archive {more : Archive} (horderly : session.Orderly archive orders strays kind)
    (hmore : ∀ run, (archive.recordingOf run).total kind ≤ (more.recordingOf run).total kind) :
    session.Orderly more orders strays kind := by
  refine RunScope.Orderly.grow horderly ?_
  rw [recordingIn, recordingIn]
  cases session.activeRun with
  | none => exact Nat.le_refl _
  | some run => exact hmore run

theorem orderly_fresh (config : Config) (valid : config.Valid) (archive : Archive)
    (kind : SequenceKind) : (fresh config valid).Orderly archive [] [] kind :=
  RunScope.orderly_fresh config valid _ kind

section Demands

variable {after : Session} {queue : List PendingFetch}
  (hbacked : session.Backed (fun run => (archive.recordingOf run).total) pending)
  (horderly : session.Orderly archive orders strays kind)

include horderly in
/-- Nothing is asked for of the sequence. -/
theorem orderly_same (hactive : after.activeRun = session.activeRun)
    (hscope : after.scope = session.scope) (hnone : rangesOf kind queue = []) :
    after.Orderly archive (orders ++ ordersOf kind queue) strays kind := by
  rw [Orderly, recordingIn, hactive, hscope, ordersOf, hnone, List.map_nil, List.append_nil]
  exact horderly

include hbacked horderly

/-- A transition within a run that only asks enters what it asks for. -/
theorem orderly_demands (hactive : after.activeRun = session.activeRun)
    (hdemands : session.scope.Demands after.scope queue kind)
    (hafter : after.scope.Sound (session.recordingIn archive).total) :
    after.Orderly archive (orders ++ ordersOf kind queue) strays kind := by
  have hentered := RunScope.orderly_demands horderly hbacked.sound_recording hdemands hafter
  rw [Orderly, recordingIn, hactive]
  exact hentered

theorem orderly_inRun {change : RunScope → RunId → RunScope × Except ViewError Command}
    (hdemands : ∀ run, session.scope.Demands (change session.scope run).1
      (Command.queueOf (change session.scope run).2) kind)
    (hsound : ∀ run, session.activeRun = some run →
      (change session.scope run).1.Sound (archive.recordingOf run).total) :
    (session.inRun change).1.Orderly archive
      (orders ++ ordersOf kind (Command.queueOf (session.inRun change).2)) strays kind := by
  rcases Option.eq_none_or_eq_some session.activeRun with hactive | ⟨run, hactive⟩
  · rw [inRun_of_none hactive]
    exact orderly_same horderly rfl rfl rfl
  · rw [inRun_of_some hactive]
    refine orderly_demands hbacked horderly rfl (hdemands run) ?_
    rw [recordingIn_of_active hactive]
    exact hsound run hactive

theorem orderly_userStep {result : Session × Except ViewError Command}
    (hstep : session.UserStep result) :
    result.1.Orderly archive (orders ++ ordersOf kind (Command.queueOf result.2)) strays kind := by
  cases hstep with
  | listing => exact orderly_same horderly rfl rfl rfl
  | operate pollOnset operation =>
      have hstarted : { session with pollOnset }.Backed _ pending :=
        ⟨hbacked.sound, hbacked.runs, hbacked.marked⟩
      exact orderly_inRun hstarted horderly
        (fun run => RunScope.demands_operate hstarted.sound_recording run operation kind)
        fun run hactive =>
          (RunScope.leaves_operate (hbacked.sound_active hactive) operation).sound
  | click frame =>
      exact orderly_demands hbacked horderly rfl
        ((session.scope.quiet_setFocusLine frame).calm.demands kind)
        (backed_onLineClicked hbacked frame).sound_recording
  | stick stickyFocus => exact orderly_same horderly rfl rfl rfl

theorem orderly_settle :
    session.settle.1.Orderly archive (orders ++ ordersOf kind session.settle.2.queue) strays
      kind := by
  rcases Option.eq_none_or_eq_some session.activeRun with hactive | ⟨run, hactive⟩
  · rw [settle_of_none hactive]
    exact orderly_same horderly rfl rfl rfl
  · refine orderly_demands hbacked horderly (activeRun_settle session) ?_ ?_
    · rw [settle_of_some hactive]
      exact (session.scope.quiet_settle run session.stickyFocus).calm.demands kind
    · have hsettled := (backed_settle hbacked).sound_recording
      rwa [recordingIn, activeRun_settle] at hsettled

end Demands

/-- A new selection has no orders but those that it makes itself. -/
theorem orderly_changeRun (archive : Archive) (session : Session) (run : Option RunId)
    (kind : SequenceKind) :
    (session.changeRun run).1.Orderly archive
      (ordersOf kind (Command.queueOf (session.changeRun run).2)) [] kind := by
  let selected : Session :=
    { session with activeRun := run, scope := .fresh session.config session.config_valid }
  -- a new scope has no marks, so nothing has to back it
  have hbacked : selected.Backed (fun run => (archive.recordingOf run).total) [.runs] :=
    ⟨RunScope.sound_fresh session.config session.config_valid _,
      fun _ => List.mem_singleton_self _,
      fun mark hmark =>
        absurd hmark (RunScope.not_marked_fresh session.config session.config_valid mark)⟩
  have horderly : selected.Orderly archive [] [] kind :=
    RunScope.orderly_fresh session.config session.config_valid _ kind
  -- and it starts with no orders; a refresh places none
  have hentered : (selected.adjustRun RunScope.refresh).1.Orderly archive
      ([] ++ ordersOf kind (Command.queueOf (selected.adjustRun RunScope.refresh).2)) [] kind := by
    refine orderly_inRun hbacked horderly (fun run => ?_) fun run hactive => ?_
    · exact (selected.scope.quiet_refresh run).calm.demands kind
    · have hleaves : (selected.scope.refresh run).1.Leaves _ run selected.scope.Marked _ :=
        RunScope.leaves_refresh (hbacked.sound_active hactive)
      exact hleaves.sound
  rwa [List.nil_append] at hentered

/-! ### Outcomes -/

section Outcomes

variable {fetch : PendingFetch} {event : Event}
  (hbacked : session.Backed (fun run => (archive.recordingOf run).total) pending)
  (hkeyed : ∀ run, (archive.recordingOf run).Keyed)
  (horderly : session.Orderly archive orders strays kind) (now : Nat)

include hbacked hkeyed in
/-- What was seen stays within what is recorded. -/
theorem sound_reduce_outcome (hgives : archive.Gives fetch event) :
    (session.reduce now event).1.scope.Sound
      ((session.reduce now event).1.recordingIn archive).total :=
  (backed_reduce_answer hbacked (fun _ hother _ => hother) now
    (hgives.answers hkeyed)).sound_recording

/-- A failure for the active run is taken up by its scope. -/
theorem reduce_fetchFailed (hactive : session.activeRun = some run) (request : Request) :
    session.reduce now (.fetchFailed run request) =
      ({ session with scope := session.scope.onFetchFailed request }, .ok .none) := by
  rw [reduce, onFetchFailed, if_pos hactive]

include hbacked hkeyed horderly in
/-- The outcome of a fetch that is not for a page of the sequence, or not for the active
run. -/
theorem orderly_reduce_other (hgives : archive.Gives fetch event)
    (hstays : session.selects event = false)
    (hother : ∀ run range, fetch = .data run (.page kind range) → session.activeRun ≠ some run) :
    (session.reduce now event).1.Orderly archive
      (orders ++ ordersOf kind (Command.queueOf (session.reduce now event).2)) strays kind := by
  have hafter := sound_reduce_outcome hbacked hkeyed now hgives
  cases hgives with
  | runsLoaded runs =>
      have hsame : runs.minKey? = session.activeRun := by simpa [selects] using hstays
      rw [reduce, if_pos hsame]
      exact orderly_same horderly rfl rfl rfl
  | runsFailed => exact orderly_same horderly rfl rfl rfl
  | @loaded run request reply hreplies =>
      by_cases hactive : session.activeRun = some run
      · obtain ⟨hscope, hrun, hqueue⟩ := reduce_loaded hactive reply now
        have hsound := hbacked.sound_active hactive
        -- the reply is no page of this sequence, but it can move the window
        have hdemands := RunScope.demands_onReply hsound hreplies
          (fun range heq => hother run range (by rw [heq]) hactive) run now
        rw [recordingIn, hrun] at hafter
        rw [hqueue]
        refine orderly_demands hbacked horderly hrun ?_ hafter
        rw [hscope]
        exact hdemands
      · rw [reduce_loaded_inactive hactive]
        exact orderly_same horderly rfl rfl rfl
  | fetchFailed run request =>
      by_cases hactive : session.activeRun = some run
      · rw [reduce_fetchFailed now hactive] at hafter ⊢
        exact orderly_demands hbacked horderly rfl (session.scope.demands_onFetchFailed
          fun range heq => hother run range (by rw [heq]) hactive) hafter
      · have hdropped : session.onFetchFailed run request = session := if_neg hactive
        rw [reduce, hdropped]
        exact orderly_same horderly rfl rfl rfl

/-- What becomes of an order when its fetch has this outcome. -/
def stateAfter (event : Event) : OrderState :=
  if event.isFetchFailure then .failed else .delivered

variable {range : Interval} (hactive : session.activeRun = some run)
  (hgives : archive.Gives (.data run (.page kind range)) event)

include hbacked hkeyed horderly hactive hgives

/-- The outcome of a page fetch that the scope made. -/
theorem orderly_reduce_own {place : Nat} {state : OrderState}
    (hplace : orders[place]? = some { range, state }) (hopen : state ≠ .failed) :
    (session.reduce now event).1.Orderly archive
      (orders.set place { range, state := stateAfter event } ++
        ordersOf kind (Command.queueOf (session.reduce now event).2)) strays kind := by
  have hafter := sound_reduce_outcome hbacked hkeyed now hgives
  rw [Orderly, recordingIn_of_active hactive] at horderly
  cases hgives with
  | @loaded _ _ reply hreplies =>
      obtain ⟨hscope, hrun, hqueue⟩ := reduce_loaded hactive reply now
      rw [recordingIn_of_active (hrun.trans hactive), hscope] at hafter
      rw [Orderly, recordingIn_of_active (hrun.trans hactive), hscope, hqueue]
      -- the page is merged, and what the window asks for next is a new order
      exact RunScope.orderly_onReply horderly (hbacked.sound_active hactive) run now hafter
        hplace hopen hreplies
  | fetchFailed =>
      have hfailed := RunScope.orderly_onFetchFailed horderly hplace hopen
      rw [← recordingIn_of_active hactive] at hfailed
      have hnone : ordersOf kind (Command.queueOf (.ok .none)) = [] := rfl
      rw [reduce_fetchFailed now hactive, hnone, List.append_nil]
      exact hfailed

/-- The outcome of a page fetch that an earlier scope of the run made. -/
theorem orderly_reduce_stray
    (hproper : (Request.page kind range).Proper session.scope.geometry
      (archive.recordingOf run).total) :
    (session.reduce now event).1.Orderly archive
      (orders ++ ordersOf kind (Command.queueOf (session.reduce now event).2)) (range :: strays)
      kind := by
  have hafter := sound_reduce_outcome hbacked hkeyed now hgives
  rw [Orderly, recordingIn_of_active hactive] at horderly
  cases hgives with
  | @loaded _ _ reply hreplies =>
      obtain ⟨hscope, hrun, hqueue⟩ := reduce_loaded hactive reply now
      rw [recordingIn_of_active (hrun.trans hactive), hscope] at hafter
      rw [Orderly, recordingIn_of_active (hrun.trans hactive), hscope, hqueue]
      exact RunScope.orderly_onReply_stray horderly (hbacked.sound_active hactive) run now hafter
        hproper hreplies
  | fetchFailed =>
      have hfailed := RunScope.orderly_onFetchFailed_stray horderly hproper
      rw [← recordingIn_of_active hactive] at hfailed
      have hnone : ordersOf kind (Command.queueOf (.ok .none)) = [] := rfl
      rw [reduce_fetchFailed now hactive, hnone, List.append_nil]
      exact hfailed

end Outcomes

/-- Settling comes after the event. -/
theorem orderly_apply {event : Event} {now : Nat}
    (hbacked : (session.reduce now event).1.Backed
      (fun run => (archive.recordingOf run).total) pending)
    (hreduced : (session.reduce now event).1.Orderly archive
      (orders ++ ordersOf kind (Command.queueOf (session.reduce now event).2)) strays kind) :
    (session.apply event now).1.Orderly archive
      (orders ++ ordersOf kind (Command.queueOf (session.apply event now).2)) strays kind := by
  refine apply_induct (motive := fun after queue =>
    after.Orderly archive (orders ++ ordersOf kind queue) strays kind) hreduced ?_
  rw [ordersOf_append, ← List.append_assoc]
  exact orderly_settle hbacked hreduced

end Session

end TraceViewer
