import TraceViewer.Proofs.Session.Backing
import TraceViewer.Proofs.Session.ScopePromises

/-!
# The promises of a session

What an event does to the windows of the active run, when runs are selected by the
listing only and every fetch is answered: it asks for a window or is steady
(`Session.Attends`).  A session that has no active run shows an empty window and has
asked for nothing of any run, so the run that the listing selects starts in order.
-/

namespace TraceViewer

namespace Archive

/-- The runs that an archive lists. -/
def listing (archive : Archive) : RunListing :=
  archive.runs.filterMap fun _ recording => recording.metadata

theorem listRuns_of_online {archive : Archive} (honline : archive.offline = false) :
    archive.listRuns = .ok archive.listing := by
  rw [listRuns, if_neg (by simp [honline])]
  rfl

theorem mem_runs_of_listed {archive : Archive} {run : RunId}
    (hlisted : archive.listing.minKey? = some run) : run ∈ archive.runs :=
  Std.ExtTreeMap.mem_of_mem_filterMap (Std.ExtTreeMap.minKey?_mem hlisted)

/-- A run that has items is a run of the archive. -/
theorem mem_runs_of_total_pos {archive : Archive} {run : RunId} {kind : SequenceKind}
    (hpos : 0 < (archive.recordingOf run).total kind) : run ∈ archive.runs := by
  by_contra hnot
  rw [recordingOf, Std.ExtTreeMap.getElem?_eq_none hnot] at hpos
  cases kind <;> exact Nat.lt_irrefl 0 hpos

/-- An archive that is online answers for the runs that it has. -/
theorem outcomeOf_of_answer {archive : Archive} (honline : archive.offline = false) {run : RunId}
    (hrun : run ∈ archive.runs) {request : Request} {reply : Reply}
    (hanswer : answer (archive.recordingOf run) request = .ok reply) :
    Simulation.outcomeOf archive (.data run request) = .loaded run reply := by
  obtain ⟨recording, hrecording⟩ :=
    Option.isSome_iff_exists.mp (Std.ExtTreeMap.mem_iff_isSome_getElem?.mp hrun)
  have hfetch : DataSource.fetch archive run request = .ok reply := by
    change fetch archive run request = .ok reply
    rw [fetch, Archive.recording, if_neg (by simp [honline]), hrecording]
    rwa [recordingOf, hrecording] at hanswer
  rw [Simulation.outcomeOf, hfetch]

/-- Every request for a page is answered. -/
theorem outcomeOf_page {archive : Archive} (honline : archive.offline = false) {run : RunId}
    (hrun : run ∈ archive.runs) (kind : SequenceKind) (range : Interval) :
    ∃ reply, Simulation.outcomeOf archive (.data run (.page kind range)) = .loaded run reply := by
  cases kind <;> exact ⟨_, outcomeOf_of_answer honline hrun rfl⟩

end Archive

namespace Session

variable {archive : Archive} {session before middle after : Session}
  {pending queue more : List PendingFetch}

/-- What a queue holds for a session is in order: the pages bring nothing but promised
items, and without an active run nothing was asked for. -/
structure Fed (pending : List PendingFetch) (session : Session) : Prop where
  scope : ∀ ⦃run : RunId⦄, session.activeRun = some run → session.scope.Fed run pending
  unasked : session.activeRun = none →
    ∀ (run : RunId) (request : Request), .data run request ∉ pending
  empty : session.activeRun = none → ∀ kind, session.scope.numItems kind = 0

/-- What an event does to the windows of the active run. -/
structure Attends (pending : List PendingFetch) (before after : Session)
    (queue : List PendingFetch) : Prop where
  fed : after.Fed (pending ++ queue)
  covered_or : ∀ kind, after.scope.Covered kind ∨ before.scope.Steady after.scope kind

theorem fed_fresh (config : Config) (valid : config.Valid) : (fresh config valid).Fed [] where
  scope := by
    rintro run ⟨⟩
  unasked := fun _ _ _ => List.not_mem_nil
  empty := by
    intro _ kind
    cases kind <;> rfl

theorem Fed.of_subset (hfed : session.Fed more) (hsub : pending ⊆ more) :
    session.Fed pending where
  scope := fun _ hactive => (hfed.scope hactive).of_subset hsub
  unasked := fun hnone run request hmem => hfed.unasked hnone run request (hsub hmem)
  empty := hfed.empty

theorem attends_self (hfed : session.Fed pending) : session.Attends pending session [] where
  fed := by
    rw [List.append_nil]
    exact hfed
  covered_or := fun kind => Or.inr (session.scope.steady_self kind)

/-- An event followed by a calm operation on the same run. -/
theorem Attends.trans_calm (hattends : before.Attends pending middle queue)
    (hactive : after.activeRun = middle.activeRun)
    (hcalm : middle.scope.Calm after.scope more)
    (hunasked : middle.activeRun = none → ∀ run request, .data run request ∉ more) :
    before.Attends pending after (queue ++ more) where
  fed :=
    { scope := by
        intro run hrun
        rw [hactive] at hrun
        rw [← List.append_assoc]
        exact (hcalm.attends (hattends.fed.scope hrun)).fed
      unasked := by
        intro hnone run request hmem
        rw [hactive] at hnone
        rw [← List.append_assoc, List.mem_append] at hmem
        exact hmem.elim (hattends.fed.unasked hnone run request) (hunasked hnone run request)
      empty := by
        intro hnone kind
        rw [hactive] at hnone
        rw [RunScope.numItems_of_calm hcalm]
        exact hattends.fed.empty hnone kind }
  covered_or := fun kind => (hattends.covered_or kind).imp hcalm.covered
    (RunScope.Steady.trans · (hcalm.steady kind))

/-- An event that is calm. -/
theorem attends_calm (hfed : session.Fed pending) (hactive : after.activeRun = session.activeRun)
    (hcalm : session.scope.Calm after.scope queue)
    (hunasked : session.activeRun = none → ∀ run request, .data run request ∉ queue) :
    session.Attends pending after queue := by
  have hattends := (attends_self hfed).trans_calm hactive hcalm hunasked
  rwa [List.nil_append] at hattends

/-! ## Events of the user -/

/-- Replacing the scope of the active run. -/
theorem fed_scope {run : RunId} (hactive : session.activeRun = some run) {scope : RunScope}
    (hscope : scope.Fed run pending) : { session with scope }.Fed pending where
  scope := by
    intro other hother
    -- only one run is active
    obtain rfl : run = other := Option.some.inj (hactive.symm.trans hother)
    exact hscope
  unasked := fun hnone => absurd (hactive.symm.trans hnone) (by simp)
  empty := fun hnone => absurd (hactive.symm.trans hnone) (by simp)

theorem attends_scope {run : RunId} (hactive : session.activeRun = some run) {scope : RunScope}
    (hscope : session.scope.Attends run pending scope queue) :
    session.Attends pending { session with scope } queue :=
  ⟨fed_scope hactive hscope.fed, hscope.covered_or⟩

/-- A change of the scope of the active run. -/
theorem attends_inRun (hfed : session.Fed pending)
    (change : RunScope → RunId → RunScope × Except ViewError Command)
    (hchange : ∀ run, session.activeRun = some run →
      session.scope.Attends run pending (change session.scope run).1
        (Command.queueOf (change session.scope run).2)) :
    session.Attends pending (session.inRun change).1
      (Command.queueOf (session.inRun change).2) := by
  rcases Option.eq_none_or_eq_some session.activeRun with hactive | ⟨run, hactive⟩
  · rw [inRun_of_none hactive]
    exact attends_self hfed
  · rw [inRun_of_some hactive]
    exact attends_scope hactive (hchange run hactive)

/-- As `attends_inRun`, for a calm change that is never refused. -/
theorem attends_adjustRun (hfed : session.Fed pending)
    {change : RunScope → RunId → RunScope × Command}
    (hchange : ∀ run, session.activeRun = some run →
      session.scope.Calm (change session.scope run).1 (change session.scope run).2.queue) :
    session.Attends pending (session.adjustRun change).1
      (Command.queueOf (session.adjustRun change).2) :=
  attends_inRun hfed _ fun run hactive => (hchange run hactive).attends (hfed.scope hactive)

theorem attends_refresh (hfed : session.Fed pending) :
    session.Attends pending session.refresh.1 (Command.queueOf session.refresh.2) :=
  attends_adjustRun hfed fun run _ => (session.scope.quiet_refresh run).calm

/-- The first run starts with an empty window, and nothing was asked for before. -/
theorem attends_changeRun (hfed : session.Fed pending) (hnone : session.activeRun = none)
    (run : RunId) :
    session.Attends pending (session.changeRun (some run)).1
      (Command.queueOf (session.changeRun (some run)).2) := by
  let selected : Session :=
    { session with
      activeRun := some run
      scope := .fresh session.config session.config_valid }
  have hselected : selected.Fed pending :=
    { scope := fun other _ => RunScope.fed_fresh session.config session.config_valid
        fun kind range => hfed.unasked hnone other (.page kind range)
      unasked := by
        rintro ⟨⟩
      empty := by
        rintro ⟨⟩ }
  have hrefreshed := attends_refresh hselected
  -- a window over an empty sequence shows no slot, so it is covered
  refine ⟨hrefreshed.fed, fun kind => Or.inl ?_⟩
  have hzero : selected.scope.numItems kind = 0 := by
    cases kind <;> rfl
  refine RunScope.covered_of_numItems_eq_zero ?_
  have hactive : selected.activeRun = some run := rfl
  have hcalm : selected.scope.Calm selected.refresh.1.scope
      (Command.queueOf selected.refresh.2) := by
    rw [refresh, adjustRun, inRun_of_some hactive]
    exact (selected.scope.quiet_refresh run).calm
  exact (RunScope.numItems_of_calm hcalm kind).trans hzero

theorem attends_userStep (hfed : session.Fed pending) {limit : RunId → SequenceKind → Nat}
    (hbacked : session.Backed limit more) {result : Session × Except ViewError Command}
    (hstep : session.UserStep result) :
    session.Attends pending result.1 (Command.queueOf result.2) := by
  cases hstep with
  | listing =>
      -- the listing is about no run, so it is no page and nothing asked of a run
      refine attends_calm hfed rfl (RunScope.calm_of_eq rfl rfl ?_) ?_
      · intro run kind range hmem
        cases List.mem_singleton.mp hmem
      · intro _ run request hmem
        cases List.mem_singleton.mp hmem
  | operate pollOnset operation =>
      have hstarted : { session with pollOnset }.Fed pending :=
        ⟨hfed.scope, hfed.unasked, hfed.empty⟩
      have hoperated := attends_inRun hstarted (fun scope run => scope.operate run operation)
        fun run hactive =>
          RunScope.attends_operate (hbacked.sound_active hactive) (hfed.scope hactive) operation
      exact ⟨hoperated.fed, hoperated.covered_or⟩
  | click frame =>
      exact attends_calm hfed rfl (session.scope.quiet_setFocusLine frame).calm
        fun _ _ _ => List.not_mem_nil
  | stick stickyFocus =>
      exact attends_calm hfed rfl session.scope.calm_self fun _ _ _ => List.not_mem_nil

/-- An event of the user that selects no run. -/
theorem attends_reduce_user (hfed : session.Fed pending)
    {limit : RunId → SequenceKind → Nat} (hbacked : session.Backed limit more) (now : Nat)
    {event : Event} (huser : event.isUser = true)
    (hstays : ∀ run, event ≠ .activeRunChanged run) :
    session.Attends pending (session.reduce now event).1
      (Command.queueOf (session.reduce now event).2) := by
  rcases session.reduce_user now huser with ⟨run, hselects, _⟩ | hstep
  · exact absurd hselects (hstays run)
  · exact attends_userStep hfed hbacked hstep

/-! ## Settling -/

theorem attends_apply {event : Event} {now : Nat}
    (hreduced : session.Attends pending (session.reduce now event).1
      (Command.queueOf (session.reduce now event).2)) :
    session.Attends pending (session.apply event now).1
      (Command.queueOf (session.apply event now).2) := by
  refine apply_induct (motive := session.Attends pending) hreduced ?_
  generalize session.reduce now event = result at hreduced ⊢
  obtain ⟨reduced, answer⟩ := result
  rcases Option.eq_none_or_eq_some reduced.activeRun with hactive | ⟨run, hactive⟩
  · rw [settle_of_none hactive]
    exact hreduced.trans_calm rfl reduced.scope.calm_self fun _ _ _ => List.not_mem_nil
  · rw [settle_of_some hactive]
    exact hreduced.trans_calm rfl (reduced.scope.quiet_settle run reduced.stickyFocus).calm
      fun hnone => absurd (hactive.symm.trans hnone) (by simp)

/-! ## Outcomes -/

/-- The reply of the archive to a pending request of the active run. -/
theorem attends_onLoaded (hfed : session.Fed pending)
    (hbacked : session.Backed (fun run => (archive.recordingOf run).total) pending) (now : Nat)
    {run : RunId} {request : Request} {reply : Reply}
    (hreplies : (archive.recordingOf run).Replies request reply)
    (hpending : .data run request ∈ pending) :
    session.Attends pending (session.reduce now (.loaded run reply)).1
      (Command.queueOf (session.reduce now (.loaded run reply)).2) := by
  by_cases hactive : session.activeRun = some run
  · have hscope := attends_scope hactive (RunScope.attends_onReply (hbacked.sound_active hactive)
      (hfed.scope hactive) hreplies hpending now)
    rw [reduce, onLoaded, if_pos hactive]
    rcases hreply : session.scope.onReply run now reply with ⟨scope, error | ⟨command, grew⟩⟩
    · rw [hreply] at hscope
      exact hscope
    · rw [hreply] at hscope
      exact ⟨⟨hscope.fed.scope, hscope.fed.unasked, hscope.fed.empty⟩, hscope.covered_or⟩
  · rw [reduce, onLoaded, if_neg hactive]
    exact attends_self hfed

theorem attends_onFetchFailed (hfed : session.Fed pending) (now : Nat) (run : RunId)
    {request : Request} (hrequest : ∀ kind range, request ≠ .page kind range) :
    session.Attends pending (session.reduce now (.fetchFailed run request)).1
      (Command.queueOf (session.reduce now (.fetchFailed run request)).2) := by
  rw [reduce, onFetchFailed]
  split_ifs
  · exact attends_calm hfed rfl (session.scope.quiet_onFetchFailed hrequest).calm
      fun _ _ _ => List.not_mem_nil
  · exact attends_self hfed

/-- The outcome of a pending fetch, when the archive is online and lists the active run
first. -/
theorem attends_reduce_outcome (honline : archive.offline = false) (hfed : session.Fed pending)
    (hbacked : session.Backed (fun run => (archive.recordingOf run).total) pending)
    (hlisted : ∀ run, session.activeRun = some run → archive.listing.minKey? = some run)
    (now : Nat) {fetch : PendingFetch} (hpending : fetch ∈ pending) :
    session.Attends pending (session.reduce now (Simulation.outcomeOf archive fetch)).1
      (Command.queueOf (session.reduce now (Simulation.outcomeOf archive fetch)).2) := by
  cases fetch with
  | runs =>
      have hruns : DataSource.listRuns archive = .ok archive.listing :=
        Archive.listRuns_of_online honline
      let listed : Session :=
        { session with runs := archive.listing, runsLoad := session.runsLoad.finish now }
      have hlistedFed : listed.Fed pending := ⟨hfed.scope, hfed.unasked, hfed.empty⟩
      rw [Simulation.outcomeOf, hruns]
      dsimp only
      rw [reduce]
      split_ifs with hsame
      · exact attends_calm hfed rfl session.scope.calm_self fun _ _ _ => List.not_mem_nil
      · -- the active run would come first in the listing, so none is active
        have hnone : session.activeRun = none := by
          refine Option.eq_none_iff_forall_ne_some.mpr fun run hactive => hsame ?_
          rw [hlisted run hactive, hactive]
        obtain ⟨run, hfirst⟩ := Option.ne_none_iff_exists'.mp fun hempty =>
          hsame (hempty.trans hnone.symm)
        rw [hfirst]
        have hchanged := attends_changeRun hlistedFed hnone run
        exact ⟨hchanged.fed, hchanged.covered_or⟩
  | data run request =>
      rcases archive.outcomeOf_data run request with ⟨reply, hreplies, houtcome⟩ | houtcome
      · rw [houtcome]
        exact attends_onLoaded hfed hbacked now hreplies hpending
      · by_cases hactive : session.activeRun = some run
        · -- the archive answers every request for a page, so what failed is no page
          have hrun := Archive.mem_runs_of_listed (hlisted run hactive)
          rw [houtcome]
          refine attends_onFetchFailed hfed now run ?_
          rintro kind range rfl
          obtain ⟨reply, hloaded⟩ := Archive.outcomeOf_page honline hrun kind range
          rw [houtcome] at hloaded
          cases hloaded
        · rw [houtcome, reduce, onFetchFailed, if_neg hactive]
          exact attends_self hfed

/-! ## The active run -/

theorem activeRun_userStep {result : Session × Except ViewError Command}
    (hstep : session.UserStep result) : result.1.activeRun = session.activeRun := by
  cases hstep with
  | listing => rfl
  | operate pollOnset operation => exact activeRun_inRun _ _
  | click frame => rfl
  | stick stickyFocus => rfl

theorem activeRun_reduce_user {event : Event} (huser : event.isUser = true)
    (hstays : ∀ run, event ≠ .activeRunChanged run) (now : Nat) :
    (session.reduce now event).1.activeRun = session.activeRun := by
  rcases session.reduce_user now huser with ⟨run, hselects, _⟩ | hstep
  · exact absurd hselects (hstays run)
  · exact activeRun_userStep hstep

/-- The outcome of a fetch within a run leaves the active run. -/
theorem activeRun_reduce_data (session : Session) (archive : Archive) (run : RunId)
    (request : Request) (now : Nat) :
    (session.reduce now (Simulation.outcomeOf archive (.data run request))).1.activeRun =
      session.activeRun := by
  rcases archive.outcomeOf_data run request with ⟨reply, _, houtcome⟩ | houtcome
  · rw [houtcome, reduce, onLoaded]
    split_ifs
    · rcases session.scope.onReply run now reply with ⟨scope, error | _⟩ <;> rfl
    · rfl
  · rw [houtcome, reduce, onFetchFailed]
    split_ifs <;> rfl

/-- The outcome of a fetch leaves the active run, or selects the run listed first. -/
theorem activeRun_reduce_outcome {archive : Archive} (honline : archive.offline = false)
    (now : Nat) (fetch : PendingFetch) :
    (session.reduce now (Simulation.outcomeOf archive fetch)).1.activeRun = session.activeRun ∨
      (session.reduce now (Simulation.outcomeOf archive fetch)).1.activeRun =
        archive.listing.minKey? := by
  cases fetch with
  | runs =>
      have hruns : DataSource.listRuns archive = .ok archive.listing :=
        Archive.listRuns_of_online honline
      rw [Simulation.outcomeOf, hruns]
      dsimp only
      rw [reduce]
      split_ifs
      · exact Or.inl rfl
      · exact Or.inr (activeRun_inRun _ _)
  | data run request => exact Or.inl (session.activeRun_reduce_data archive run request now)

theorem activeRun_apply (session : Session) (event : Event) (now : Nat) :
    (session.apply event now).1.activeRun = (session.reduce now event).1.activeRun := by
  exact apply_induct
    (motive := fun after _ => after.activeRun = (session.reduce now event).1.activeRun)
    rfl (activeRun_settle _)

end Session

end TraceViewer
