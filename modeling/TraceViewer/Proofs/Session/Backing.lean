import TraceViewer.Proofs.Session.ReplyMarks
import TraceViewer.Proofs.Simulation.Schedule

/-!
# Marks of a session

A session is *backed* by a list of pending fetches when everything it waits for is among
them (`Session.Backed`).  Its own events keep this, once what they ask for is added to
the list (`backed_reduce_user`).  So does an event that answers a pending fetch, although
that fetch need not be pending any more: the answer takes every mark that the fetch
backs (`backed_reduce_answer`).

Selecting a run makes a fresh scope, which waits for nothing.  What is still pending for
the scope before is harmless: it may be delivered into the fresh scope, and then takes
marks, but it leaves none.
-/

namespace TraceViewer

/-- Whether a mark can be found on a scope that has seen at most `limit` items. -/
def Mark.Within (limit : SequenceKind → Nat) : Mark → Prop
  | .sequence kind (.page start requestedEnd) => start < requestedEnd ∧ requestedEnd ≤ limit kind
  | _ => True

theorem RunScope.within_of_marked {limit : SequenceKind → Nat} {scope : RunScope}
    (hsound : scope.Sound limit) {mark : Mark} (hmark : scope.Marked mark) :
    mark.Within limit := by
  cases mark with
  | sequence kind mark =>
      cases mark with
      | total => trivial
      | page start requestedEnd =>
          cases kind with
          | executions => exact Timeline.lt_of_marked hsound.digests hmark
          | graphExecutions => exact Timeline.lt_of_marked hsound.graphExecutions hmark
  | _ => trivial

/-- The events that may answer a pending fetch.  A reply has to take every mark that its
request backs. -/
inductive PendingFetch.Answers (limit : RunId → SequenceKind → Nat) :
    PendingFetch → Event → Prop where
  | runsLoaded (runs : RunListing) : Answers limit .runs (.runsLoaded runs)
  | runsFailed : Answers limit .runs .runsFailed
  | loaded {run : RunId} {request : Request} {reply : Reply} (sound : reply.Sound (limit run))
      (clears : ∀ mark : Mark, mark.Within (limit run) → request.Backs mark →
        reply.Clears mark) :
      Answers limit (.data run request) (.loaded run reply)
  | fetchFailed (run : RunId) (request : Request) :
      Answers limit (.data run request) (.fetchFailed run request)

theorem PendingFetch.answers_failureOf {limit : RunId → SequenceKind → Nat}
    (fetch : PendingFetch) : fetch.Answers limit (Simulation.failureOf fetch) := by
  cases fetch with
  | runs => exact .runsFailed
  | data run request => exact .fetchFailed run request

namespace Session

variable {limit : RunId → SequenceKind → Nat} {pending : List PendingFetch} {session : Session}

/-- How many items of a sequence can have been seen when a run is active. -/
def bound (limit : RunId → SequenceKind → Nat) : Option RunId → SequenceKind → Nat
  | none => fun _ => 0
  | some run => limit run

/-- Everything that a session waits for is pending, for the run that is active. -/
structure Backed (limit : RunId → SequenceKind → Nat) (pending : List PendingFetch)
    (session : Session) : Prop where
  sound : session.scope.Sound (bound limit session.activeRun)
  runs : session.runsLoad.isLoading = true → .runs ∈ pending
  marked : ∀ mark, session.scope.Marked mark →
    ∃ run, session.activeRun = some run ∧ Requested pending run mark

theorem backed_fresh (config : Config) (valid : config.Valid) :
    (fresh config valid).Backed limit pending where
  sound := RunScope.sound_fresh config valid _
  runs := by
    rintro ⟨⟩
  marked := fun mark hmark => absurd hmark (RunScope.not_marked_fresh config valid mark)

theorem Backed.sound_active (hbacked : session.Backed limit pending) {run : RunId}
    (hactive : session.activeRun = some run) : session.scope.Sound (limit run) := by
  have hsound := hbacked.sound
  rw [hactive] at hsound
  exact hsound

/-- Without pending fetches nothing is marked. -/
theorem Backed.not_marked (hbacked : session.Backed limit []) (mark : Mark) :
    ¬ session.scope.Marked mark := by
  intro hmark
  obtain ⟨run, _, request, hmem, _⟩ := hbacked.marked mark hmark
  cases hmem

theorem Backed.mono {more : RunId → SequenceKind → Nat} (hbacked : session.Backed limit pending)
    (hle : ∀ run kind, limit run kind ≤ more run kind) : session.Backed more pending where
  sound := by
    refine hbacked.sound.mono fun kind => ?_
    cases session.activeRun with
    | none => exact Nat.le_refl _
    | some run => exact hle run kind
  runs := hbacked.runs
  marked := hbacked.marked

/-- Replacing the scope of the active run, when every mark that is kept is backed. -/
theorem backed_scope {run : RunId} (hactive : session.activeRun = some run)
    (hruns : session.runsLoad.isLoading = true → .runs ∈ pending) {kept : Mark → Prop}
    (hkept : ∀ mark, kept mark → Requested pending run mark) {queue : List PendingFetch}
    {scope : RunScope} (hleaves : scope.Leaves (limit run) run kept queue) :
    { session with scope }.Backed limit (pending ++ queue) where
  sound := by
    change scope.Sound (bound limit session.activeRun)
    rw [hactive]
    exact hleaves.sound
  runs := fun hloading => List.mem_append_left queue (hruns hloading)
  marked := by
    intro mark hmark
    refine ⟨run, hactive, ?_⟩
    -- an old mark is backed by an old fetch, a new one by what is asked for
    rcases hleaves.tracked mark hmark with hold | hrequested
    · exact (hkept mark hold).mono (List.subset_append_left pending queue)
    · exact hrequested.mono (List.subset_append_right pending queue)

theorem Backed.requested (hbacked : session.Backed limit pending) {run : RunId}
    (hactive : session.activeRun = some run) (mark : Mark) (hmark : session.scope.Marked mark) :
    Requested pending run mark := by
  obtain ⟨other, hother, hrequested⟩ := hbacked.marked mark hmark
  rw [hactive, Option.some.injEq] at hother
  exact hother ▸ hrequested

/-! ## Events of the user -/

theorem inRun_of_some {run : RunId} (hactive : session.activeRun = some run)
    (change : RunScope → RunId → RunScope × Except ViewError Command) :
    session.inRun change =
      ({ session with scope := (change session.scope run).1 }, (change session.scope run).2) := by
  unfold inRun
  split
  · rename_i hnone
    rw [hactive] at hnone
    cases hnone
  · rename_i other hother
    rw [hactive, Option.some.injEq] at hother
    rw [hother]

theorem inRun_of_none (hactive : session.activeRun = none)
    (change : RunScope → RunId → RunScope × Except ViewError Command) :
    session.inRun change = (session, .ok .none) := by
  rw [inRun, hactive]

/-- A change of the scope of the active run that leaves marks only for what it asks. -/
theorem activeRun_inRun (session : Session)
    (change : RunScope → RunId → RunScope × Except ViewError Command) :
    (session.inRun change).1.activeRun = session.activeRun := by
  rcases Option.eq_none_or_eq_some session.activeRun with hactive | ⟨run, hactive⟩
  · rw [inRun_of_none hactive]
  · rw [inRun_of_some hactive]

theorem backed_inRun (hbacked : session.Backed limit pending)
    {change : RunScope → RunId → RunScope × Except ViewError Command}
    (hchange : ∀ run, session.activeRun = some run →
      (change session.scope run).1.Leaves (limit run) run session.scope.Marked
        (Command.queueOf (change session.scope run).2)) :
    (session.inRun change).1.Backed limit
      (pending ++ Command.queueOf (session.inRun change).2) := by
  rcases Option.eq_none_or_eq_some session.activeRun with hactive | ⟨run, hactive⟩
  · rw [inRun_of_none hactive]
    simpa using hbacked
  · rw [inRun_of_some hactive]
    exact backed_scope hactive hbacked.runs (hbacked.requested hactive) (hchange run hactive)

/-- As `backed_inRun`, for a change that is never refused. -/
theorem backed_adjustRun (hbacked : session.Backed limit pending)
    {change : RunScope → RunId → RunScope × Command}
    (hchange : ∀ run, session.activeRun = some run →
      (change session.scope run).1.Leaves (limit run) run session.scope.Marked
        (change session.scope run).2.queue) :
    (session.adjustRun change).1.Backed limit
      (pending ++ Command.queueOf (session.adjustRun change).2) :=
  backed_inRun hbacked hchange

theorem backed_refresh (hbacked : session.Backed limit pending) :
    session.refresh.1.Backed limit (pending ++ Command.queueOf session.refresh.2) :=
  backed_adjustRun hbacked fun _ hactive => RunScope.leaves_refresh (hbacked.sound_active hactive)

/-- A fresh scope waits for nothing, whatever is still pending for the one before. -/
theorem backed_changeRun (hruns : session.runsLoad.isLoading = true → .runs ∈ pending)
    (run : Option RunId) :
    (session.changeRun run).1.Backed limit
      (pending ++ Command.queueOf (session.changeRun run).2) := by
  refine backed_refresh ⟨?_, hruns, fun mark hmark => ?_⟩
  · exact RunScope.sound_fresh session.config session.config_valid _
  · exact absurd hmark (RunScope.not_marked_fresh session.config session.config_valid mark)

theorem backed_onLineClicked (hbacked : session.Backed limit pending) (frame : StackFrame) :
    (session.onLineClicked frame).Backed limit pending where
  sound := ⟨hbacked.sound.digests_kind, hbacked.sound.graph_kind, hbacked.sound.digests,
    hbacked.sound.graphExecutions, hbacked.sound.sources.nodup, hbacked.sound.sources.aligned⟩
  runs := hbacked.runs
  marked := fun mark hmark => hbacked.marked mark (RunScope.marked_setFocusLine.mp hmark)

/-- What the user does without selecting a run is backed by what it asks for. -/
theorem backed_userStep (hbacked : session.Backed limit pending)
    {result : Session × Except ViewError Command} (hstep : session.UserStep result) :
    result.1.Backed limit (pending ++ Command.queueOf result.2) := by
  cases hstep with
  | listing =>
      exact
        { sound := hbacked.sound
          runs := fun _ => List.mem_append_right pending (List.mem_singleton_self _)
          marked := by
            intro mark hmark
            obtain ⟨run, hactive, hrequested⟩ := hbacked.marked mark hmark
            exact ⟨run, hactive, hrequested.mono (List.subset_append_left _ _)⟩ }
  | operate pollOnset operation =>
      have hstarted : { session with pollOnset }.Backed limit pending :=
        ⟨hbacked.sound, hbacked.runs, hbacked.marked⟩
      exact backed_inRun hstarted fun run hactive =>
        RunScope.leaves_operate (hbacked.sound_active hactive) operation
  | click frame => simpa using backed_onLineClicked hbacked frame
  | stick stickyFocus =>
      have hset : { session with stickyFocus }.Backed limit pending :=
        ⟨hbacked.sound, hbacked.runs, hbacked.marked⟩
      simpa using hset

/-- An event of the user is backed by what it asks for. -/
theorem backed_reduce_user (hbacked : session.Backed limit pending) (now : Nat) {event : Event}
    (huser : event.isUser = true) :
    (session.reduce now event).1.Backed limit
      (pending ++ Command.queueOf (session.reduce now event).2) := by
  rcases session.reduce_user now huser with ⟨run, _, hchange⟩ | hstep
  · rw [hchange]
    exact backed_changeRun hbacked.runs run
  · exact backed_userStep hbacked hstep

/-! ## Settling -/

theorem settle_of_some {run : RunId} (hactive : session.activeRun = some run) :
    session.settle =
      ({ session with scope := (session.scope.settle run session.stickyFocus).1 },
        (session.scope.settle run session.stickyFocus).2) := by
  unfold settle
  split
  · rename_i hnone
    rw [hactive] at hnone
    cases hnone
  · rename_i other hother
    rw [hactive, Option.some.injEq] at hother
    rw [hother]

theorem settle_of_none (hactive : session.activeRun = none) :
    session.settle = (session, .none) := by
  rw [settle, hactive]

theorem activeRun_settle (session : Session) :
    session.settle.1.activeRun = session.activeRun := by
  rcases Option.eq_none_or_eq_some session.activeRun with hactive | ⟨run, hactive⟩
  · rw [settle_of_none hactive]
  · rw [settle_of_some hactive]

theorem apply_of_error {event : Event} {now : Nat} {reduced : Session} {error : ViewError}
    (hreduced : session.reduce now event = (reduced, .error error)) :
    session.apply event now = (reduced, .error error) := by
  rw [apply, hreduced]

theorem apply_of_failure {event : Event} {now : Nat} (hfailure : event.isFetchFailure = true) :
    session.apply event now = session.reduce now event := by
  rw [apply]
  rcases session.reduce now event with ⟨reduced, error | command⟩
  · rfl
  · dsimp only
    rw [if_pos hfailure]

theorem apply_of_ok {event : Event} {now : Nat} {reduced : Session} {command : Command}
    (hreduced : session.reduce now event = (reduced, .ok command))
    (hanswer : event.isFetchFailure = false) :
    session.apply event now =
      (reduced.settle.1, .ok (.combine [command, reduced.settle.2])) := by
  rw [apply, hreduced]
  dsimp only
  rw [if_neg (by simp [hanswer])]

/-- An event is taken up, and the session settles if it does so at all. -/
theorem apply_cases (session : Session) (event : Event) (now : Nat) :
    session.apply event now = session.reduce now event ∨
      ∃ reduced command, session.reduce now event = (reduced, .ok command) ∧
        session.apply event now =
          (reduced.settle.1, .ok (.combine [command, reduced.settle.2])) := by
  rcases hreduced : session.reduce now event with ⟨reduced, error | command⟩
  · exact Or.inl (apply_of_error hreduced)
  · cases hfailure : event.isFetchFailure with
    | true => exact Or.inl ((apply_of_failure hfailure).trans hreduced)
    | false => exact Or.inr ⟨reduced, command, rfl, apply_of_ok hreduced hfailure⟩

/-- What holds of a session and of the fetches that an event led to, whether or not the session
settled afterwards. -/
theorem apply_induct {motive : Session → List PendingFetch → Prop} {event : Event} {now : Nat}
    (hreduced : motive (session.reduce now event).1 (Command.queueOf (session.reduce now event).2))
    (hsettled : motive (session.reduce now event).1.settle.1
      (Command.queueOf (session.reduce now event).2 ++
        (session.reduce now event).1.settle.2.queue)) :
    motive (session.apply event now).1 (Command.queueOf (session.apply event now).2) := by
  rcases session.apply_cases event now with hsame | ⟨reduced, command, hresult, happly⟩
  · rw [hsame]
    exact hreduced
  · rw [hresult] at hsettled
    rw [happly, Command.queueOf_combine_pair]
    exact hsettled

theorem backed_settle (hbacked : session.Backed limit pending) :
    session.settle.1.Backed limit (pending ++ session.settle.2.queue) := by
  rcases Option.eq_none_or_eq_some session.activeRun with hactive | ⟨run, hactive⟩
  · rw [settle_of_none hactive]
    simpa using hbacked
  · rw [settle_of_some hactive]
    exact backed_scope hactive hbacked.runs (hbacked.requested hactive)
        (RunScope.leaves_settle (hbacked.sound_active hactive) session.stickyFocus)

/-- Settling after an event keeps a session backed. -/
theorem backed_apply {event : Event} {now : Nat}
    (hreduced : (session.reduce now event).1.Backed limit
      (pending ++ Command.queueOf (session.reduce now event).2)) :
    (session.apply event now).1.Backed limit
      (pending ++ Command.queueOf (session.apply event now).2) := by
  refine apply_induct (motive := fun after queue => after.Backed limit (pending ++ queue))
    hreduced ?_
  rw [← List.append_assoc]
  exact backed_settle hreduced

/-! ## Answers -/

section Answers

variable (hbacked : session.Backed limit pending) {fetch : PendingFetch}
  {rest : List PendingFetch} (hrest : ∀ other ∈ pending, other ≠ fetch → other ∈ rest)

include hrest in
/-- What is pending for a mark is still pending, unless it was the fetch that is answered. -/
theorem requested_rest {run : RunId} {mark : Mark} (hrequested : Requested pending run mark)
    (hother : ∀ request, fetch = .data run request → ¬ request.Backs mark) :
    Requested rest run mark := by
  obtain ⟨request, hmem, hbacks⟩ := hrequested
  refine ⟨request, hrest _ hmem ?_, hbacks⟩
  intro hsame
  exact hother request hsame.symm hbacks

include hbacked hrest in
theorem runs_rest (hfetch : fetch ≠ .runs) (hloading : session.runsLoad.isLoading = true) :
    .runs ∈ rest :=
  hrest _ (hbacked.runs hloading) hfetch.symm

include hbacked hrest in
/-- An answer for a run that is not active is not taken up, and backs no mark either. -/
theorem backed_ignored {run : RunId} {request : Request} (hfetch : fetch = .data run request)
    (hactive : session.activeRun ≠ some run) : session.Backed limit rest := by
  subst hfetch
  refine ⟨hbacked.sound, runs_rest hbacked hrest (by simp), fun mark hmark => ?_⟩
  obtain ⟨other, hother, hrequested⟩ := hbacked.marked mark hmark
  refine ⟨other, hother, requested_rest hrest hrequested ?_⟩
  rintro request ⟨⟩
  exact absurd hother hactive

include hbacked hrest in
/-- The listing came, or it failed: no run is concerned. -/
theorem backed_listed (hfetch : fetch = .runs) (runs : RunListing) {runsLoad : LoadState}
    (hidle : runsLoad.isLoading = false) :
    { session with runs, runsLoad }.Backed limit rest := by
  subst hfetch
  refine ⟨hbacked.sound, fun hloading => ?_, fun mark hmark => ?_⟩
  · exact absurd hloading (Bool.eq_false_iff.mp hidle)
  · obtain ⟨run, hactive, hrequested⟩ := hbacked.marked mark hmark
    refine ⟨run, hactive, requested_rest hrest hrequested ?_⟩
    rintro request ⟨⟩

include hbacked hrest in
theorem backed_onLoaded {run : RunId} {request : Request} (hfetch : fetch = .data run request)
    {reply : Reply} (hsound : reply.Sound (limit run))
    (hclears : ∀ mark : Mark, mark.Within (limit run) → request.Backs mark → reply.Clears mark)
    (now : Nat) :
    (session.reduce now (.loaded run reply)).1.Backed limit
      (rest ++ Command.queueOf (session.reduce now (.loaded run reply)).2) := by
  subst hfetch
  by_cases hactive : session.activeRun = some run
  · -- a mark that the reply leaves is not one that its request backs
    have hkept : ∀ mark, session.scope.Marked mark ∧ ¬ reply.Clears mark →
        Requested rest run mark := by
      rintro mark ⟨hmark, hstays⟩
      refine requested_rest hrest (hbacked.requested hactive mark hmark) ?_
      rintro other ⟨⟩ hbacks
      have hwithin := RunScope.within_of_marked (hbacked.sound_active hactive) hmark
      exact hstays (hclears mark hwithin hbacks)
    have hscope := backed_scope hactive (runs_rest hbacked hrest (by simp)) hkept
      (RunScope.answered_onReply (hbacked.sound_active hactive) hsound now)
    rw [reduce, onLoaded, if_pos hactive]
    rcases hreply : session.scope.onReply run now reply with ⟨scope, error | ⟨command, grew⟩⟩
    · rw [hreply] at hscope
      exact hscope
    · rw [hreply] at hscope
      exact ⟨hscope.sound, hscope.runs, hscope.marked⟩
  · rw [reduce, onLoaded, if_neg hactive]
    simpa using backed_ignored hbacked hrest rfl hactive

include hbacked hrest in
theorem backed_onFetchFailed {run : RunId} {request : Request}
    (hfetch : fetch = .data run request) (now : Nat) :
    (session.reduce now (.fetchFailed run request)).1.Backed limit
      (rest ++ Command.queueOf (session.reduce now (.fetchFailed run request)).2) := by
  subst hfetch
  by_cases hactive : session.activeRun = some run
  · rw [reduce, onFetchFailed, if_pos hactive]
    -- a failure releases every mark that its request backs
    refine backed_scope hactive (runs_rest hbacked hrest (by simp)) ?_
      (RunScope.failed_onFetchFailed (hbacked.sound_active hactive) request)
    rintro mark ⟨hmark, hstays⟩
    refine requested_rest hrest (hbacked.requested hactive mark hmark) ?_
    rintro other ⟨⟩
    exact hstays
  · rw [reduce, onFetchFailed, if_neg hactive]
    simpa using backed_ignored hbacked hrest rfl hactive

include hbacked hrest in
/-- An answer takes what its fetch backs, so the fetch need not be pending any more. -/
theorem backed_reduce_answer (now : Nat) {event : Event} (hanswers : fetch.Answers limit event) :
    (session.reduce now event).1.Backed limit
      (rest ++ Command.queueOf (session.reduce now event).2) := by
  cases hanswers with
  | runsLoaded runs =>
      have hidle : (session.runsLoad.finish now).isLoading = false := rfl
      have hlisted := backed_listed hbacked hrest rfl runs hidle
      rw [reduce]
      split_ifs
      · simpa using hlisted
      · -- another run comes first now, and its scope waits for nothing
        exact backed_changeRun hlisted.runs runs.minKey?
  | runsFailed =>
      have hidle : session.runsLoad.fail.isLoading = false := rfl
      simpa [reduce] using backed_listed hbacked hrest rfl session.runs hidle
  | loaded hsound hclears => exact backed_onLoaded hbacked hrest rfl hsound hclears now
  | fetchFailed run request => exact backed_onFetchFailed hbacked hrest rfl now

end Answers

end Session

end TraceViewer
