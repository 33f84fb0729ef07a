import TraceViewer.Proofs.Session.OriginRecord
import TraceViewer.Proofs.Simulation.Draining
import TraceViewer.Sample

/-!
# A refresh heals

Schedules leave windows that lack slots: pages fail, totals overtake them, the archive goes
offline.  A refresh makes up for all of it (`refresh_heals`): once nothing is pending and
the archive is online, it is enough to refresh and to deliver what is pending, the oldest
first.

## Strategy

* What every schedule keeps is that the session is backed by the queue, that its pages are
  whole, and that all that is pending is proper (`Simulation.Aligned`, `aligned_playAll`).
* Nothing is marked then, so the refresh finds the session as if it had just asked for the
  totals, and the simulation is draining from there on (`draining_refresh`).
* Along with that the record of the focused execution stays sought, and no listing arrives
  that would select another run (`Simulation.Healing`, `healing_deliverNext`).
-/

namespace TraceViewer.Simulation

variable {simulation next : Simulation Archive} {run : RunId}

/-! ## Every schedule -/

/-- What holds of a simulation whatever the schedule. -/
structure Aligned (simulation : Simulation Archive) : Prop where
  backed : simulation.Backed
  shaped : simulation.session.Shaped
  fed : simulation.session.Fed []
  proper : ∀ fetch ∈ simulation.pending, fetch.Proper simulation.session.config.geometry
    fun run => (simulation.source.recordingOf run).total

theorem aligned_opening (config : Config) (valid : config.Valid) (additions : List Addition) :
    (opening config valid additions).Aligned where
  backed := backed_opening config valid additions
  shaped := Session.geometry_fresh config valid
  fed := Session.fed_fresh config valid
  proper := by
    rintro fetch ⟨⟩

/-- An event after which the session is backed and its pages are whole. -/
theorem aligned_send (hshaped : simulation.session.Shaped) {event : Event}
    (hbacked : (simulation.send event).Backed)
    (hreduced : (simulation.session.reduce simulation.clock event).1.Fed [])
    (hpending : ∀ fetch ∈ simulation.pending, fetch.Proper simulation.session.config.geometry
      fun run => (simulation.source.recordingOf run).total)
    (hasked : ∀ fetch ∈ Command.queueOf (simulation.session.apply event simulation.clock).2,
      fetch.Proper simulation.session.config.geometry
        fun run => (simulation.source.recordingOf run).total) :
    (simulation.send event).Aligned where
  backed := hbacked
  shaped := by
    rw [session_send]
    exact (simulation.session.reshapes_apply event simulation.clock).shaped hshaped
  fed := by
    rw [session_send]
    exact Session.fed_apply hreduced
  proper := by
    rw [session_send, source_send, pending_send,
      (simulation.session.reshapes_apply event simulation.clock).config_eq]
    intro fetch hmem
    exact (List.mem_append.mp hmem).elim (hpending fetch) (hasked fetch)

/-- Completing or failing a fetch, whether it stays in the queue or not. -/
theorem aligned_answer (haligned : simulation.Aligned) {fetch : PendingFetch} {event : Event}
    (hanswers : fetch.Answers (fun run => (simulation.source.recordingOf run).total) event)
    (hreduced : (simulation.session.reduce simulation.clock event).1.Fed [])
    {rest : List PendingFetch} (hsub : rest ⊆ simulation.pending)
    (hrest : ∀ other ∈ simulation.pending, other ≠ fetch → other ∈ rest) (entry : LogRecord) :
    (({ simulation with pending := rest }.record entry).send event).Aligned := by
  let staged := { simulation with pending := rest }.record entry
  have hshaped : staged.session.Shaped := haligned.shaped
  have hbacked := Session.backed_reduce_answer haligned.backed.session hrest simulation.clock
    hanswers
  have hasked := Session.proper_apply hbacked fun asked =>
    Session.proper_reduce_answer haligned.shaped haligned.backed.session simulation.clock hanswers
  exact aligned_send hshaped (backed_answer haligned.backed hanswers hrest entry) hreduced
    (fun other hmem => haligned.proper other (hsub hmem)) hasked

theorem aligned_answered (haligned : simulation.Aligned) {after : Simulation Archive}
    (hanswered : simulation.Answered after) : after.Aligned := by
  cases hanswered with
  | idle => exact haligned
  | outcome entry hpending hsub hothers =>
      have hreduced := Session.fed_reduce_outcome haligned.shaped haligned.fed
        haligned.backed.session (haligned.proper _ hpending) simulation.clock
      exact aligned_answer haligned (Archive.answers_outcomeOf haligned.backed.keyed _) hreduced
        hsub hothers entry
  | failure entry _ hsub hothers =>
      exact aligned_answer haligned (PendingFetch.answers_failureOf _)
        (Session.fed_reduce_failure haligned.fed _ simulation.clock) hsub hothers entry

/-- Every move keeps the pages whole. -/
theorem aligned_play (haligned : simulation.Aligned) {move : Move} (hfair : move.IsFair) :
    (simulation.play move).Aligned := by
  have hbacked := backed_play haligned.backed hfair
  cases move with
  | send event =>
      have hreduced := Session.backed_reduce_user haligned.backed.session simulation.clock hfair
      refine aligned_send haligned.shaped hbacked
        (Session.fed_reduce_user haligned.fed haligned.backed.session simulation.clock hfair)
        haligned.proper ?_
      exact Session.proper_apply hreduced fun fetch =>
        Session.proper_reduce_user haligned.shaped haligned.backed.session simulation.clock hfair
  | deliver index => exact aligned_answered haligned (simulation.answered_deliver index)
  | duplicate index => exact aligned_answered haligned (simulation.answered_duplicate index)
  | fail index => exact aligned_answered haligned (simulation.answered_fail index)
  | advance time => exact ⟨hbacked, haligned.shaped, haligned.fed, haligned.proper⟩
  | add addition =>
      -- the sequences grow, so a range that was proper stays proper
      refine ⟨hbacked, haligned.shaped, haligned.fed, fun fetch hmem => ?_⟩
      exact (haligned.proper fetch hmem).mono fun run kind =>
        Archive.total_add simulation.source addition run kind
  | setOffline offline => exact ⟨hbacked, haligned.shaped, haligned.fed, haligned.proper⟩

theorem aligned_playAll (haligned : simulation.Aligned) {moves : List Move}
    (hfair : ∀ move ∈ moves, move.IsFair) : (simulation.playAll moves).Aligned := by
  induction moves generalizing simulation with
  | nil => exact haligned
  | cons move rest ih =>
      rw [List.forall_mem_cons] at hfair
      exact ih (aligned_play haligned hfair.1) hfair.2

/-! ## Healing -/

/-- A refresh is being answered, in order, for a run that stays active. -/
structure Healing (run : RunId) (simulation : Simulation Archive) : Prop where
  aligned : simulation.Aligned
  draining : simulation.Draining true
  active : simulation.session.activeRun = some run
  sought : simulation.session.scope.RecordSought
  unlisted : .runs ∉ simulation.pending

theorem healing_deliverNext (honline : simulation.source.offline = false)
    (hhealing : simulation.Healing run) (hnext : simulation.deliverNext? = some next) :
    next.Healing run := by
  have haligned : next.Aligned :=
    play_deliver_zero hnext ▸ aligned_play hhealing.aligned True.intro
  obtain ⟨fetch, rest, hpending, _, hsession, hqueue⟩ := deliverNext?_cases hnext
  have hunlisted := hhealing.unlisted
  have hproper := hhealing.aligned.proper
  have hbacked := hhealing.aligned.backed.session
  rw [hpending] at hunlisted hproper hbacked
  -- the listing is not pending, so the fetch is about a run
  refine ⟨haligned, draining_deliverNext honline hhealing.draining hnext, ?_, ?_, ?_⟩ <;>
    cases fetch with
    | runs => exact absurd List.mem_cons_self hunlisted
    | data other request => ?_
  · rw [hsession, Session.activeRun_apply, Session.activeRun_reduce_data]
    exact hhealing.active
  · rw [hsession]
    exact Session.sought_apply honline hhealing.aligned.shaped hhealing.active hhealing.sought
      (hproper _ List.mem_cons_self) simulation.clock
  · have hanswers := Archive.answers_outcomeOf hhealing.aligned.backed.keyed (.data other request)
    have hreduced := Session.backed_reduce_answer hbacked
      (fun other hmem hne => (List.mem_cons.mp hmem).resolve_left hne) simulation.clock hanswers
    rw [hqueue, List.mem_append, not_or]
    exact ⟨fun hmem => hunlisted (List.mem_cons_of_mem _ hmem),
      Session.runs_not_mem_apply hhealing.aligned.shaped hbacked hreduced hanswers⟩

theorem healing_deliverUpTo (honline : simulation.source.offline = false)
    (hhealing : simulation.Healing run) (limit : Nat) :
    (simulation.deliverUpTo limit).1.Healing run := by
  exact deliverUpTo_of_online_step (fun _ _ => healing_deliverNext) honline hhealing limit

/-- A refresh that finds nothing pending starts to heal. -/
theorem healing_refresh (haligned : simulation.Aligned) (hquiet : simulation.pending = [])
    (hactive : simulation.session.activeRun = some run) :
    (simulation.send .refresh).Healing run := by
  have hrefreshed : simulation.session.reduce simulation.clock .refresh =
      ({ simulation.session with scope := (simulation.session.scope.refresh run).1 },
        .ok (simulation.session.scope.refresh run).2) := by
    rw [Session.reduce, Session.refresh, Session.adjustRun, Session.inRun_of_some hactive]
  have hplayed : (simulation.play (.send .refresh)).Aligned := aligned_play haligned rfl
  refine ⟨hplayed, draining_refresh haligned.backed haligned.shaped hquiet haligned.fed.scope,
    ?_, ?_, ?_⟩
  · rw [session_send, Session.activeRun_apply, hrefreshed]
    exact hactive
  · rw [session_send, Session.apply_of_ok hrefreshed rfl]
    exact Session.sought_settle hactive
  · have hbacked : (simulation.session.reduce simulation.clock .refresh).1.Backed
        (fun run => (simulation.source.recordingOf run).total) _ :=
      Session.backed_reduce_user haligned.backed.session simulation.clock rfl
    rw [pending_send, hquiet, List.nil_append]
    intro hmem
    obtain ⟨_, _, hfetch, _⟩ := Session.asks_apply hbacked
      (Session.asks_refresh haligned.shaped) _ hmem
    cases hfetch

/-- Whatever the schedule was: when nothing is pending and the archive is online, a refresh
and the deliveries that it causes come to an end before the limit, with the totals of the
recording, full windows, and the record of the focused execution.  A run that the archive
does not have counts as one without items. -/
theorem refresh_heals (config : Config) (valid : config.Valid) (additions : List Addition)
    (moves : List Move) (hfair : ∀ move ∈ moves, move.IsFair) (run : RunId)
    (hquiet : ((opening config valid additions).playAll moves).pending = [])
    (honline : ((opening config valid additions).playAll moves).source.offline = false)
    (hactive : ((opening config valid additions).playAll moves).session.activeRun = some run) :
    let simulation := (opening config valid additions).playAll moves
    let recording := simulation.source.recordingOf run
    let healed := (simulation.send .refresh).deliverAll
    let scope := healed.1.session.scope
    healed.1.pending = [] ∧ healed.2 < deliveryLimit ∧
      healed.1.session.activeRun = some run ∧
      (∀ kind, scope.numItems kind = recording.total kind) ∧
      (∀ kind, ∀ index ∈ scope.visibleRange kind, scope.Holds kind index) ∧
      ∀ index, scope.focusOrigin = some (.execution index) →
        index < recording.total .executions → index ∈ scope.executions.records := by
  intro simulation recording healed scope
  have haligned : simulation.Aligned :=
    aligned_playAll (aligned_opening config valid additions) hfair
  let sent := simulation.send .refresh
  have hsource : sent.source = simulation.source := source_send ..
  -- nothing was pending, so all the work is that of the refresh
  have hload : sent.workload ≤ 506 := workload_send_user_le hquiet rfl
  obtain ⟨hempty, hcount⟩ : healed.1.pending = [] ∧ healed.2 ≤ sent.workload :=
    deliverUpTo_of_workload_le (Nat.le_trans hload (by decide))
  have hhealing : healed.1.Healing run := healing_deliverUpTo (hsource ▸ honline)
    (healing_refresh haligned hquiet hactive) deliveryLimit
  have hsame : healed.1.source = simulation.source := (sent.source_deliverUpTo _).trans hsource
  have hfills := hhealing.draining.fills hhealing.active
  have hrest := hhealing.draining.atRest hempty
  rw [hempty, hsame] at hfills
  rw [hsame] at hrest
  refine ⟨hempty, Nat.lt_of_le_of_lt hcount (Nat.lt_of_le_of_lt hload (by decide)),
    hhealing.active, hfills.numItems_eq, fun kind index => hrest.holds, ?_⟩
  intro index horigin hlt
  rw [← hfills.numItems_eq] at hlt
  -- no mark is left, so the record that was sought is held
  exact (hhealing.sought horigin hlt).resolve_right
    (hrest.backed.not_marked (.record index))

/-- The page and the record of the first execution fail, and then a second execution is
recorded. -/
def lossyMoves : List Move :=
  [.send (.activeRunChanged (some "a")), .deliver 0, .deliver 0, .deliver 0, .deliver 0, .fail 0,
    .fail 0, .add (.execution "a" (Sample.execution "Op1" []))]

/-- Where the failures leave a simulation. -/
def bereft : Simulation Archive :=
  (opening {} (by decide) [.run "a" 1, .execution "a" (Sample.execution "Op0" [])]).playAll
    lossyMoves

theorem playAll_lossyMoves :
    (opening {} (by decide) [.run "a" 1, .execution "a" (Sample.execution "Op0" [])]).playAll
      lossyMoves = bereft := rfl

/-- Nothing is pending, and nothing is held. -/
theorem bereft_spec :
    bereft.pending = [] ∧ bereft.source.offline = false ∧ bereft.session.activeRun = some "a" ∧
      (bereft.source.recordingOf "a").total .executions = 2 ∧
      0 ∉ bereft.session.scope.executions.digests.items ∧
      0 ∉ bereft.session.scope.executions.records := by
  decide +kernel

theorem visibleRange_healed_bereft :
    (bereft.send .refresh).deliverAll.1.session.scope.visibleRange .executions = ⟨0, 2⟩ := by
  decide +kernel

theorem focusOrigin_healed_bereft :
    (bereft.send .refresh).deliverAll.1.session.scope.focusOrigin = some (.execution 0) := by
  decide +kernel

/-- The refresh brings what failed and what was recorded since. -/
theorem healed_after_failures :
    let healed := (bereft.send .refresh).deliverAll
    let scope := healed.1.session.scope
    0 ∉ bereft.session.scope.executions.digests.items ∧
      0 ∉ bereft.session.scope.executions.records ∧
      healed.1.pending = [] ∧ healed.2 < deliveryLimit ∧ scope.numItems .executions = 2 ∧
      scope.Holds .executions 0 ∧ scope.Holds .executions 1 ∧ 0 ∈ scope.executions.records := by
  obtain ⟨hquiet, honline, hactive, htotal, hitem, hrecord⟩ := bereft_spec
  have hheals := refresh_heals {} (by decide)
    [.run "a" 1, .execution "a" (Sample.execution "Op0" [])] lossyMoves
    (by simp [lossyMoves, Move.IsFair, Event.isUser]) "a" hquiet honline hactive
  have hvisible := visibleRange_healed_bereft
  have horigin := focusOrigin_healed_bereft
  rw [playAll_lossyMoves] at hheals
  -- from here on it does not matter what the deliveries compute
  dsimp only at hheals ⊢
  generalize (bereft.send .refresh).deliverAll = healed at hheals hvisible horigin ⊢
  obtain ⟨hempty, hcount, _, htotals, hfull, hrecords⟩ := hheals
  refine ⟨hitem, hrecord, hempty, hcount, (htotals .executions).trans htotal,
    hfull .executions 0 ?_, hfull .executions 1 ?_,
    hrecords 0 horigin (Nat.lt_of_lt_of_eq Nat.zero_lt_two htotal.symm)⟩
  · rw [hvisible]
    decide
  · rw [hvisible]
    decide

end TraceViewer.Simulation
