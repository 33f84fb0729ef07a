import TraceViewer.Proofs.Session.Effort
import TraceViewer.Proofs.Session.Filling
import TraceViewer.Proofs.Session.Promises
import TraceViewer.Proofs.Simulation.Effort

/-!
# Draining

A simulation is *draining* when both windows fill if from now on every fetch is answered,
the oldest first (`Simulation.Draining`).  A delivery leaves it draining
(`draining_deliverNext`).

Two things start it, from a moment at which nothing is pending.  A refresh does, whatever
the windows lack (`draining_refresh`).  Any event of the user does when both windows are
full (`draining_send_user`); in particular nothing that touches a sequence is pending when
the user asks for the listing, which may select another run.
-/

namespace TraceViewer

/-! ## Archives that are online -/

namespace Archive

variable {archive : Archive} {run : RunId}

/-- A request for a total or a page can fail only when the run has no items. -/
theorem total_eq_zero_of_failed (honline : archive.offline = false) {request : Request}
    (houtcome : Simulation.outcomeOf archive (.data run request) = .fetchFailed run request)
    {kind : SequenceKind}
    (hrequest : request = Timeline.totalRequest kind ∨ ∃ range, request = .page kind range) :
    (archive.recordingOf run).total kind = 0 := by
  by_contra hne
  have hrun := mem_runs_of_total_pos (Nat.pos_of_ne_zero hne)
  have hanswer : ∃ reply, answer (archive.recordingOf run) request = .ok reply := by
    rcases hrequest with rfl | ⟨range, rfl⟩ <;> cases kind <;> exact ⟨_, rfl⟩
  obtain ⟨reply, hreply⟩ := hanswer
  rw [outcomeOf_of_answer honline hrun hreply] at houtcome
  cases houtcome

end Archive

/-! ## Sessions -/

/-- Whether a queue holds nothing but requests for what a focus can be missing. -/
def Focal (queue : List PendingFetch) : Prop :=
  ∀ fetch ∈ queue, ∃ run request total, fetch = .data run request ∧ request.IsFocal total

section Focal

variable {queue : List PendingFetch}

theorem Focal.untouching (hfocal : Focal queue) (run : RunId) (kind : SequenceKind) :
    Untouching run kind queue := by
  intro fetch hmem
  obtain ⟨other, request, total, rfl, hrequest⟩ := hfocal fetch hmem
  have huntouching : request.touches kind = false := by
    cases request <;> first | rfl | exact hrequest.elim
  simp [PendingFetch.touches, huntouching]

theorem Focal.pageless (hfocal : Focal queue) : Pageless queue := by
  intro run kind range hmem
  obtain ⟨other, request, total, hfetch, hrequest⟩ := hfocal _ hmem
  cases hfetch
  exact hrequest

theorem Focal.runs_not_mem (hfocal : Focal queue) : .runs ∉ queue := by
  intro hmem
  obtain ⟨run, request, total, hfetch, _⟩ := hfocal _ hmem
  cases hfetch

end Focal

namespace Session

variable {refreshed : Bool} {archive : Archive} {session : Session}
  {pending rest queue : List PendingFetch} {run : RunId}

/-- The windows of the active run fill. -/
def Fills (refreshed : Bool) (archive : Archive) (pending : List PendingFetch)
    (session : Session) : Prop :=
  ∀ ⦃run : RunId⦄, session.activeRun = some run →
    session.scope.Fills refreshed (archive.recordingOf run).total run pending

theorem fills_scope (hactive : session.activeRun = some run) {scope : RunScope}
    (hscope : scope.Fills refreshed (archive.recordingOf run).total run pending) :
    { session with scope }.Fills refreshed archive pending := by
  intro other hother
  -- only one run is active
  obtain rfl : run = other := Option.some.inj (hactive.symm.trans hother)
  exact hscope

theorem fills_of_none (hactive : session.activeRun = none) :
    session.Fills refreshed archive pending := by
  intro run hrun
  cases hactive.symm.trans hrun

theorem fills_inRun {change : RunScope → RunId → RunScope × Except ViewError Command}
    (hchange : ∀ run, session.activeRun = some run →
      (change session.scope run).1.Fills refreshed (archive.recordingOf run).total run
        (pending ++ Command.queueOf (change session.scope run).2)) :
    (session.inRun change).1.Fills refreshed archive
      (pending ++ Command.queueOf (session.inRun change).2) := by
  rcases Option.eq_none_or_eq_some session.activeRun with hactive | ⟨run, hactive⟩
  · rw [inRun_of_none hactive]
    exact fills_of_none hactive
  · rw [inRun_of_some hactive]
    exact fills_scope hactive (hchange run hactive)

theorem Fills.settle (hfills : session.Fills refreshed archive pending)
    (hbacked : session.Backed (fun run => (archive.recordingOf run).total) queue) :
    session.settle.1.Fills refreshed archive (pending ++ session.settle.2.queue) := by
  rcases Option.eq_none_or_eq_some session.activeRun with hactive | ⟨run, hactive⟩
  · rw [settle_of_none hactive]
    exact fills_of_none hactive
  · rw [settle_of_some hactive]
    exact fills_scope hactive
      ((hfills hactive).settle (hbacked.sound_active hactive) session.stickyFocus)

theorem fills_apply {event : Event} {now : Nat}
    (hbacked : (session.reduce now event).1.Backed
      (fun run => (archive.recordingOf run).total) queue)
    (hreduced : (session.reduce now event).1.Fills refreshed archive
      (pending ++ Command.queueOf (session.reduce now event).2)) :
    (session.apply event now).1.Fills refreshed archive
      (pending ++ Command.queueOf (session.apply event now).2) := by
  refine apply_induct
    (motive := fun after queue => after.Fills refreshed archive (pending ++ queue)) hreduced ?_
  rw [← List.append_assoc]
  exact hreduced.settle hbacked

/-- The outcome of the oldest fetch, when it is a fetch within a run. -/
theorem fills_reduce_data (honline : archive.offline = false) {request : Request}
    (hbacked : session.Backed (fun run => (archive.recordingOf run).total)
      (.data run request :: rest))
    (hfills : session.Fills refreshed archive (.data run request :: rest)) (now : Nat) :
    (session.reduce now (Simulation.outcomeOf archive (.data run request))).1.Fills refreshed
      archive (rest ++ Command.queueOf
        (session.reduce now (Simulation.outcomeOf archive (.data run request))).2) := by
  by_cases hactive : session.activeRun = some run
  · have hscope := hfills hactive
    have hsound := hbacked.sound_active hactive
    rcases archive.outcomeOf_data run request with ⟨reply, hreplies, houtcome⟩ | houtcome
    · have hreplied := hscope.onReply hsound (hbacked.requested hactive) hreplies now
      rw [houtcome, reduce, onLoaded, if_pos hactive]
      rcases hreply : session.scope.onReply run now reply with ⟨scope, error | ⟨command, grew⟩⟩ <;>
        rw [hreply] at hreplied
      · exact fills_scope hactive hreplied
      · exact fills_scope hactive hreplied
    · -- a page was asked for only because there are items, and then it does not fail
      have hpage : ∀ kind range, request ≠ .page kind range := by
        rintro kind range rfl
        have hzero := archive.total_eq_zero_of_failed honline houtcome (Or.inr ⟨range, rfl⟩)
        have hle := hsound.numItems_le kind
        have hpos := RunScope.numItems_pos_of_asked hsound hscope.fed List.mem_cons_self
        omega
      have hfailed := hscope.onFetchFailed hsound hpage fun kind htotal =>
        archive.total_eq_zero_of_failed honline houtcome (Or.inl htotal)
      rw [houtcome, reduce, onFetchFailed, if_pos hactive, Command.queueOf_ok, Command.queue_none,
        List.append_nil]
      exact fills_scope hactive hfailed
  · have hignored : session.reduce now (Simulation.outcomeOf archive (.data run request)) =
        (session, .ok .none) := by
      rcases archive.outcomeOf_data run request with ⟨reply, _, houtcome⟩ | houtcome
      · rw [houtcome, reduce, onLoaded, if_neg hactive]
      · rw [houtcome, reduce, onFetchFailed, if_neg hactive]
    rw [hignored, Command.queueOf_ok, Command.queue_none, List.append_nil]
    intro other hother
    refine (hfills hother).tail fun kind hfetch => hactive ?_
    rw [hother]
    cases hfetch
    rfl

/-- Everything is asked for anew while nothing that touches the sequences is pending. -/
theorem fills_refresh {limit : SequenceKind → Nat} (hsound : session.scope.Sound limit)
    (hfed : ∀ run, session.activeRun = some run → session.scope.Fed run pending)
    (hunmarked : ∀ kind, session.scope.Unmarked kind)
    (huntouching : ∀ run kind, Untouching run kind pending) (refreshed : Bool) :
    session.refresh.1.Fills refreshed archive (pending ++ Command.queueOf session.refresh.2) :=
  fills_inRun fun run hactive =>
    RunScope.fills_refresh hsound (hfed run hactive) hunmarked (huntouching run) refreshed _

/-- A run that is selected starts with empty sequences. -/
theorem fills_changeRun (session : Session) (run : Option RunId) (hpageless : Pageless pending)
    (huntouching : ∀ run kind, Untouching run kind pending) (refreshed : Bool) :
    (session.changeRun run).1.Fills refreshed archive
      (pending ++ Command.queueOf (session.changeRun run).2) := by
  let selected : Session :=
    { session with activeRun := run, scope := .fresh session.config session.config_valid }
  have hsound : selected.scope.Sound 0 :=
    RunScope.sound_fresh session.config session.config_valid 0
  refine fills_refresh hsound (fun other _ => ?_) (fun kind start requestedEnd => ?_) huntouching
    refreshed
  · exact RunScope.fed_fresh session.config session.config_valid (hpageless other)
  · exact RunScope.not_marked_fresh session.config session.config_valid _

/-- The listing arrives when all that is pending besides is for the focus. -/
theorem fills_reduce_runs (honline : archive.offline = false) (hfocal : Focal rest)
    (hfills : session.Fills refreshed archive (.runs :: rest)) (now : Nat) :
    (session.reduce now (Simulation.outcomeOf archive .runs)).1.Fills refreshed archive
      (rest ++ Command.queueOf (session.reduce now (Simulation.outcomeOf archive .runs)).2) := by
  have hruns : DataSource.listRuns archive = .ok archive.listing :=
    Archive.listRuns_of_online honline
  rw [Simulation.outcomeOf, hruns]
  dsimp only
  rw [reduce]
  split_ifs
  · rw [Command.queueOf_ok, Command.queue_none, List.append_nil]
    intro run hactive
    refine (hfills hactive).tail fun kind hfetch => ?_
    cases hfetch
  · exact fills_changeRun _ _ hfocal.pageless hfocal.untouching refreshed

theorem focal_settle {limit : RunId → SequenceKind → Nat} (hbacked : session.Backed limit pending) :
    Focal session.settle.2.queue := by
  rcases Option.eq_none_or_eq_some session.activeRun with hactive | ⟨run, hactive⟩
  · rw [settle_of_none hactive]
    rintro fetch ⟨⟩
  · rw [settle_of_some hactive]
    intro fetch hmem
    obtain ⟨request, hfetch, hrequest⟩ :=
      RunScope.mem_queue_settle (hbacked.sound_active hactive) hmem
    exact ⟨run, request, _, hfetch, hrequest⟩

/-- No answer leads to a request for the listing. -/
theorem runs_not_mem_apply {limit : RunId → SequenceKind → Nat} (hshaped : session.Shaped)
    (hbacked : session.Backed limit pending) {event : Event} {now : Nat}
    (hreduced : (session.reduce now event).1.Backed limit queue) {fetch : PendingFetch}
    (hanswers : fetch.Answers limit event) :
    .runs ∉ Command.queueOf (session.apply event now).2 := by
  intro hmem
  obtain ⟨run, request, hfetch, _⟩ := asks_apply hreduced
    (asks_reduce_answer hshaped hbacked now hanswers) _ hmem
  cases hfetch

/-- Nothing is on its way for the active run, and its windows are full. -/
structure AtRest (archive : Archive) (session : Session) : Prop where
  backed : session.Backed (fun run => (archive.recordingOf run).total) []
  shaped : session.Shaped
  fed : ∀ ⦃run : RunId⦄, session.activeRun = some run → session.scope.Fed run []
  assured : ∀ ⦃run : RunId⦄, session.activeRun = some run → ∀ kind, session.scope.Assured kind

/-- The windows of a session at rest are full; without an active run they are empty. -/
theorem AtRest.holds (hrest : session.AtRest archive) {kind : SequenceKind} {index : Nat}
    (hvisible : index ∈ session.scope.visibleRange kind) : session.scope.Holds kind index := by
  have hassured : session.scope.Assured kind := by
    rcases Option.eq_none_or_eq_some session.activeRun with hactive | ⟨run, hactive⟩
    · have hle := hrest.backed.sound.numItems_le kind
      rw [hactive] at hle
      exact RunScope.assured_of_numItems_eq_zero (Nat.le_zero.mp hle)
    · exact hrest.assured hactive kind
  exact (RunScope.assured_iff_holds hrest.backed.not_marked kind).mp hassured index hvisible

/-- An event of the user finds the session at rest. -/
theorem fills_reduce_user (hrest : session.AtRest archive) (now : Nat) {event : Event}
    (huser : event.isUser = true) :
    (session.reduce now event).1.Fills false archive
      (Command.queueOf (session.reduce now event).2) := by
  have hnothing : ∀ run kind, Untouching run kind [] := fun _ _ => untouching_nil
  rcases session.reduce_user now huser with ⟨run, _, hchange⟩ | hstep
  · rw [hchange]
    exact session.fills_changeRun run pageless_nil hnothing false
  · generalize session.reduce now event = result at hstep
    cases hstep with
    | listing =>
        intro run hactive
        have hpageless : Pageless [.runs] := by
          rintro _ _ _ hmem
          cases List.mem_singleton.mp hmem
        have hcalm : session.scope.Calm session.scope [.runs] :=
          RunScope.calm_of_eq rfl rfl hpageless
        refine RunScope.fills_of_assured (hcalm.attends (hrest.fed hactive)).fed
          (hrest.assured hactive) (fun kind fetch hmem => ?_) _
        rw [List.mem_singleton.mp hmem]
        rfl
    | operate pollOnset operation =>
        rw [← List.nil_append (Command.queueOf _)]
        refine fills_inRun fun run hactive => ?_
        have hsound := hrest.backed.sound_active hactive
        by_cases hrefresh : operation = .refresh
        · subst hrefresh
          exact RunScope.fills_refresh hsound (hrest.fed hactive)
            (fun kind _ _ => hrest.backed.not_marked _) (hnothing run) false _
        · exact RunScope.fills_operate hsound (hrest.fed hactive) (hrest.assured hactive)
            (hnothing run) hrefresh _
    | click frame =>
        intro run hactive
        have hcalm := (session.scope.quiet_setFocusLine frame).calm
        exact RunScope.fills_of_assured (hcalm.fed (hrest.fed hactive))
          (fun kind => (hcalm.still kind).assured (hrest.assured hactive kind)) (hnothing run) _
    | stick stickyFocus =>
        intro run hactive
        exact RunScope.fills_of_assured (hrest.fed hactive) (hrest.assured hactive)
          (hnothing run) _

end Session

/-! ## Simulations -/

namespace Simulation

variable {refreshed : Bool} {simulation next : Simulation Archive}

/-- Both windows fill when all fetches are answered in order. -/
structure Draining (refreshed : Bool) (simulation : Simulation Archive) : Prop where
  backed : simulation.Backed
  shaped : simulation.session.Shaped
  fills : simulation.session.Fills refreshed simulation.source simulation.pending
  /-- The listing is answered first. -/
  listing : .runs ∈ simulation.pending →
    ∃ rest, simulation.pending = .runs :: rest ∧ Focal rest

theorem deliverNext?_cases (hnext : simulation.deliverNext? = some next) :
    ∃ fetch rest, simulation.pending = fetch :: rest ∧
      next.source = simulation.source ∧
      next.session = (simulation.session.apply (outcomeOf simulation.source fetch)
        simulation.clock).1 ∧
      next.pending = rest ++ Command.queueOf (simulation.session.apply
        (outcomeOf simulation.source fetch) simulation.clock).2 := by
  rw [deliverNext?, deliverAt?, Option.map_eq_some_iff] at hnext
  obtain ⟨fetch, hfetch, rfl⟩ := hnext
  cases hpending : simulation.pending with
  | nil => rw [hpending] at hfetch; cases hfetch
  | cons head rest =>
      rw [hpending] at hfetch
      cases hfetch
      refine ⟨fetch, rest, rfl, source_send .., session_send .., ?_⟩
      rw [complete, pending_send]
      change simulation.pending.eraseIdx 0 ++ _ = _
      rw [hpending]
      rfl

/-- Delivering the oldest fetch is a move. -/
theorem play_deliver_zero (hnext : simulation.deliverNext? = some next) :
    simulation.play (.deliver 0) = next := by
  rw [play, ← deliverNext?, hnext]
  rfl

/-- A delivery leaves a simulation draining. -/
theorem draining_deliverNext (honline : simulation.source.offline = false)
    (hdraining : simulation.Draining refreshed) (hnext : simulation.deliverNext? = some next) :
    next.Draining refreshed := by
  obtain ⟨fetch, rest, hpending, hsource, hsession, hqueue⟩ := deliverNext?_cases hnext
  have hbacked := hdraining.backed.session
  have hfills := hdraining.fills
  rw [hpending] at hbacked hfills
  have hother : ∀ other ∈ fetch :: rest, other ≠ fetch → other ∈ rest := fun other hmem hne =>
    (List.mem_cons.mp hmem).resolve_left hne
  have hanswers := Archive.answers_outcomeOf hdraining.backed.keyed fetch
  have hreduced := Session.backed_reduce_answer hbacked hother simulation.clock hanswers
  refine ⟨?_, ?_, ?_, ?_⟩
  · rw [← play_deliver_zero hnext]
    exact backed_play hdraining.backed True.intro
  · rw [hsession]
    exact (simulation.session.reshapes_apply _ _).shaped hdraining.shaped
  · rw [hsession, hsource, hqueue]
    refine Session.fills_apply hreduced ?_
    cases fetch with
    | runs =>
        obtain ⟨_, hlisted, hfocal⟩ := hdraining.listing (hpending ▸ List.mem_cons_self)
        cases hpending.symm.trans hlisted
        exact Session.fills_reduce_runs honline hfocal hfills simulation.clock
    | data run request => exact Session.fills_reduce_data honline hbacked hfills simulation.clock
  · -- the listing leaves the queue first, and no answer asks for it again
    rw [hqueue]
    intro hmem
    rcases List.mem_append.mp hmem with hrest | hnew
    · obtain ⟨_, hlisted, hfocal⟩ := hdraining.listing (hpending ▸ List.mem_cons_of_mem fetch hrest)
      cases hpending.symm.trans hlisted
      exact absurd hrest hfocal.runs_not_mem
    · exact absurd hnew
        (Session.runs_not_mem_apply hdraining.shaped hbacked hreduced hanswers)

/-- What every delivery preserves is preserved by a run of deliveries. -/
theorem deliverUpTo_of_step {motive : Simulation Archive → Prop}
    (hstep : ∀ ⦃before after⦄, before.deliverNext? = some after → motive before → motive after)
    (hstart : motive simulation) (limit : Nat) : motive (simulation.deliverUpTo limit).1 := by
  induction limit generalizing simulation with
  | zero => exact hstart
  | succ limit ih =>
      rw [deliverUpTo]
      cases hnext : simulation.deliverNext? with
      | none => exact hstart
      | some next => exact ih (hstep hnext hstart)

theorem source_deliverNext (hnext : simulation.deliverNext? = some next) :
    next.source = simulation.source := by
  obtain ⟨_, _, _, hsource, _⟩ := deliverNext?_cases hnext
  exact hsource

theorem source_deliverUpTo (simulation : Simulation Archive) (limit : Nat) :
    (simulation.deliverUpTo limit).1.source = simulation.source :=
  deliverUpTo_of_step (motive := fun later => later.source = simulation.source)
    (fun _ _ hnext hsource => (source_deliverNext hnext).trans hsource) rfl limit

/-- As `deliverUpTo_of_step`, when the archive is online all along. -/
theorem deliverUpTo_of_online_step {motive : Simulation Archive → Prop}
    (hstep : ∀ ⦃before after⦄, before.source.offline = false → motive before →
      before.deliverNext? = some after → motive after)
    (honline : simulation.source.offline = false) (hstart : motive simulation) (limit : Nat) :
    motive (simulation.deliverUpTo limit).1 := by
  have hboth := deliverUpTo_of_step
    (motive := fun later => later.source.offline = false ∧ motive later)
    (fun _ _ hnext ⟨honline, hbefore⟩ =>
      ⟨source_deliverNext hnext ▸ honline, hstep honline hbefore hnext⟩)
    ⟨honline, hstart⟩ limit
  exact hboth.2

/-! ## Starting to drain -/

/-- A transition that asks for the listing asks for it first. -/
theorem draining_send (hbacked : simulation.Backed) (hshaped : simulation.session.Shaped)
    (hquiet : simulation.pending = []) {event : Event} (huser : event.isUser = true)
    (hfills : (simulation.session.reduce simulation.clock event).1.Fills refreshed
      simulation.source (Command.queueOf
        (simulation.session.reduce simulation.clock event).2)) :
    (simulation.send event).Draining refreshed := by
  have hreduced := Session.backed_reduce_user hbacked.session simulation.clock huser
  have hsent : (simulation.send event).pending =
      Command.queueOf (simulation.session.apply event simulation.clock).2 := by
    rw [pending_send, hquiet, List.nil_append]
  have hplayed : (simulation.play (.send event)).Backed := backed_play hbacked huser
  refine ⟨hplayed, ?_, ?_, ?_⟩
  · rw [session_send]
    exact (simulation.session.reshapes_apply _ _).shaped hshaped
  · rw [session_send, source_send, hsent, ← List.nil_append (Command.queueOf _)]
    exact Session.fills_apply hreduced hfills
  · rw [hsent]
    rcases Session.asks_reduce_user hshaped hbacked.session simulation.clock huser with
      hlisting | hasked
    · intro _
      have hanswer : event.isFetchFailure = false := by
        cases event <;> first | rfl | cases huser
      rcases hresult : simulation.session.reduce simulation.clock event with ⟨reduced, result⟩
      rw [hresult] at hlisting hreduced
      refine ⟨reduced.settle.2.queue, ?_, Session.focal_settle hreduced⟩
      rw [Session.apply_of_ok (hresult.trans (congrArg (Prod.mk reduced) hlisting)) hanswer,
        Command.queueOf_combine_pair]
      rfl
    · intro hmem
      obtain ⟨run, request, hfetch, _⟩ := Session.asks_apply hreduced hasked _ hmem
      cases hfetch

/-- A refresh that finds nothing pending. -/
theorem draining_refresh (hbacked : simulation.Backed) (hshaped : simulation.session.Shaped)
    (hquiet : simulation.pending = [])
    (hfed : ∀ run, simulation.session.activeRun = some run → simulation.session.scope.Fed run []) :
    (simulation.send .refresh).Draining true := by
  refine draining_send hbacked hshaped hquiet rfl ?_
  exact Session.fills_refresh hbacked.session.sound hfed
    (fun kind _ _ => hbacked.not_marked hquiet _) (fun _ _ => untouching_nil) true

/-- An event of the user that finds the session at rest. -/
theorem draining_send_user (hquiet : simulation.pending = [])
    (hkeyed : ∀ run, (simulation.source.recordingOf run).Keyed)
    (hrest : simulation.session.AtRest simulation.source) {event : Event}
    (huser : event.isUser = true) : (simulation.send event).Draining false := by
  have hbacked : simulation.Backed := ⟨hquiet ▸ hrest.backed, hkeyed⟩
  exact draining_send hbacked hrest.shaped hquiet huser
    (Session.fills_reduce_user hrest simulation.clock huser)

/-- When nothing is pending any more, the session is at rest. -/
theorem Draining.atRest (hdraining : simulation.Draining refreshed)
    (hquiet : simulation.pending = []) : simulation.session.AtRest simulation.source where
  backed := hquiet ▸ hdraining.backed.session
  shaped := hdraining.shaped
  fed run hactive := by
    have hfed := (hdraining.fills hactive).fed
    rwa [hquiet] at hfed
  assured run hactive kind := by
    have hfills := hdraining.fills hactive
    rw [hquiet] at hfills
    exact hfills.assured kind

end Simulation

end TraceViewer
