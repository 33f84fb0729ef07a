import TraceViewer.Proofs.Session.Promises
import TraceViewer.Proofs.Session.ScopeEffort

/-!
# The effort of a session

What becomes of a fetch changes the balance of effort in one of two ways
(`Session.Spends`).  Either less is due afterwards than before, all that was asked for
included, or nothing was asked for and no more is due than before (`spends_outcome`,
`spends_failure`).

A listing is worth enough for everything that a fresh run is asked for.  A user can cause
no more than that at once, besides what the focus needs (`effort_apply_user`).
-/

namespace TraceViewer

namespace Session

variable {limit : RunId → SequenceKind → Nat} {session before middle after : Session}
  {effort : Nat} {queue : List PendingFetch}

/-- What a session may still ask for on its own account. -/
def needs (limit : RunId → SequenceKind → Nat) (session : Session) : Nat :=
  session.scope.needs (bound limit session.activeRun)

theorem needs_le (limit : RunId → SequenceKind → Nat) (session : Session) :
    session.needs limit ≤ 6 :=
  session.scope.needs_le _

/-- What an answer worth some effort does to the balance: less is due than before, or no
more is due and nothing was asked for. -/
def Spends (limit : RunId → SequenceKind → Nat) (effort : Nat) (before after : Session)
    (queue : List PendingFetch) : Prop :=
  effortOf queue + after.needs limit < before.needs limit + effort ∨
    queue = [] ∧ after.needs limit ≤ before.needs limit + effort

/-! ## Settling -/

/-- Settling pays for what it asks out of the needs. -/
theorem effort_settle (limit : RunId → SequenceKind → Nat) (session : Session) :
    effortOf session.settle.2.queue + session.settle.1.needs limit ≤ session.needs limit := by
  rcases Option.eq_none_or_eq_some session.activeRun with hactive | ⟨run, hactive⟩
  · rw [settle_of_none hactive]
    exact Nat.le_of_eq (Nat.zero_add _)
  · rw [settle_of_some hactive]
    exact session.scope.effort_settle run session.stickyFocus

/-- An event that is taken in, with what settling adds. -/
theorem effort_apply_of_ok (limit : RunId → SequenceKind → Nat) {event : Event} {now : Nat}
    {command : Command}
    (hreduced : session.reduce now event = (middle, .ok command))
    (hanswer : event.isFetchFailure = false) :
    effortOf (Command.queueOf (session.apply event now).2) +
        (session.apply event now).1.needs limit ≤
      effortOf command.queue + middle.needs limit := by
  have hsettled := effort_settle limit middle
  rw [apply_of_ok hreduced hanswer, Command.queueOf_combine_pair, effortOf_append]
  dsimp only
  omega

/-! ## Events of the user -/

theorem effort_inRun {change : RunScope → RunId → RunScope × Except ViewError Command}
    (hchange : ∀ run, effortOf (Command.queueOf (change session.scope run).2) ≤ effort) :
    effortOf (Command.queueOf (session.inRun change).2) ≤ effort := by
  rcases Option.eq_none_or_eq_some session.activeRun with hactive | ⟨run, hactive⟩
  · rw [inRun_of_none hactive]
    exact Nat.zero_le effort
  · rw [inRun_of_some hactive]
    exact hchange run

theorem effort_changeRun (session : Session) (run : Option RunId) :
    effortOf (Command.queueOf (session.changeRun run).2) ≤ 9 :=
  effort_inRun fun run => RunScope.effort_operate _ run .refresh

theorem effort_reduce_user (session : Session) (now : Nat) {event : Event}
    (huser : event.isUser = true) :
    effortOf (Command.queueOf (session.reduce now event).2) ≤ 16 := by
  rcases session.reduce_user now huser with ⟨run, _, hchange⟩ | hstep
  · rw [hchange]
    exact Nat.le_trans (session.effort_changeRun run) (by decide)
  · generalize session.reduce now event = result at hstep
    cases hstep with
    | listing => exact Nat.le_refl 16
    | operate pollOnset operation =>
        exact Nat.le_trans (effort_inRun fun run => RunScope.effort_operate _ run operation)
          (by decide)
    | click frame => exact Nat.zero_le 16
    | stick stickyFocus => exact Nat.zero_le 16

/-- However much was failed before, an event of the user leaves a bounded effort. -/
theorem effort_apply_user (session : Session) (now : Nat) {event : Event}
    (huser : event.isUser = true) :
    effortOf (Command.queueOf (session.apply event now).2) +
      (session.apply event now).1.needs limit ≤ 22 := by
  have hreduce := session.effort_reduce_user now huser
  rcases hreduced : session.reduce now event with ⟨middle, error | command⟩
  · rw [apply_of_error hreduced]
    exact Nat.le_trans (Nat.le_of_eq (Nat.zero_add _))
      (Nat.le_trans (middle.needs_le limit) (by decide))
  · rw [hreduced, Command.queueOf_ok] at hreduce
    have hfailure : event.isFetchFailure = false := by
      cases event <;> first | rfl | cases huser
    have happly := effort_apply_of_ok limit hreduced hfailure
    -- the transition and the needs it leaves are bounded apart
    have hneeds := middle.needs_le limit
    omega

/-! ## Answers -/

/-- Settling is all that happens, and the answer was worth something. -/
theorem spends_ignored (hpos : 0 < effort) {event : Event} {now : Nat}
    (hreduced : session.reduce now event = (middle, .ok .none))
    (hneeds : middle.needs limit ≤ session.needs limit)
    (hanswer : event.isFetchFailure = false) :
    session.Spends limit effort (session.apply event now).1
      (Command.queueOf (session.apply event now).2) := by
  have happly := effort_apply_of_ok limit hreduced hanswer
  rw [Command.queue_none, effortOf_nil] at happly
  exact Or.inl (by omega)

theorem spends_runsFailed (session : Session) (now : Nat) :
    session.Spends limit 16 (session.apply .runsFailed now).1
      (Command.queueOf (session.apply .runsFailed now).2) := by
  have hreduced : session.reduce now .runsFailed =
      ({ session with runsLoad := session.runsLoad.fail }, .ok .none) := rfl
  exact spends_ignored (by decide) hreduced (Nat.le_refl _) rfl

/-- A listing may select another run, which is asked for everything. -/
theorem spends_runsLoaded (session : Session) (runs : RunListing) (now : Nat) :
    session.Spends limit 16 (session.apply (.runsLoaded runs) now).1
      (Command.queueOf (session.apply (.runsLoaded runs) now).2) := by
  let listed : Session := { session with runs, runsLoad := session.runsLoad.finish now }
  by_cases hsame : runs.minKey? = session.activeRun
  · have hreduced : session.reduce now (.runsLoaded runs) = (listed, .ok .none) := by
      rw [reduce, if_pos hsame]
    exact spends_ignored (by decide) hreduced (Nat.le_refl _) rfl
  · have hreduced : session.reduce now (.runsLoaded runs) = listed.changeRun runs.minKey? := by
      rw [reduce, if_neg hsame]
    have hchange := listed.effort_changeRun runs.minKey?
    rcases hchanged : listed.changeRun runs.minKey? with ⟨middle, error | command⟩ <;>
      rw [hchanged] at hreduced hchange
    · -- the scope of another run needs everything, and the listing pays for it
      have hneeds := middle.needs_le limit
      rw [apply_of_error hreduced]
      refine Or.inl ?_
      rw [Command.queueOf_error, effortOf_nil]
      dsimp only
      omega
    · have happly := effort_apply_of_ok limit hreduced rfl
      have hneeds := middle.needs_le limit
      rw [Command.queueOf_ok] at hchange
      exact Or.inl (by omega)

/-- The reply of a recording to a request. -/
theorem spends_loaded {archive : Archive} (session : Session) {run : RunId} {request : Request}
    {reply : Reply} (hreplies : (archive.recordingOf run).Replies request reply) (now : Nat) :
    session.Spends (fun run => (archive.recordingOf run).total) request.effort
      (session.apply (.loaded run reply) now).1
      (Command.queueOf (session.apply (.loaded run reply) now).2) := by
  by_cases hactive : session.activeRun = some run
  · have hpays := session.scope.pays_onReply hreplies run now
    -- the needs are those of the active run
    have hneeded : ∀ after : Session, after.activeRun = some run →
        after.needs (fun run => (archive.recordingOf run).total) =
          after.scope.needs (archive.recordingOf run).total := by
      intro after hafter
      rw [needs, hafter]
      rfl
    have hreduced : session.reduce now (.loaded run reply) = session.onLoaded run reply now := rfl
    rw [onLoaded, if_pos hactive] at hreduced
    rcases hreply : session.scope.onReply run now reply with ⟨scope, error | ⟨command, grew⟩⟩ <;>
      rw [hreply] at hreduced hpays
    · rw [apply_of_error hreduced, Spends]
      -- a refused reply asks for nothing and leaves no more needs
      refine Or.inr ?_
      have hafter : needs _ { session with scope } = _ := hneeded { session with scope } hactive
      rw [hneeded session hactive]
      exact ⟨rfl, Nat.le_trans (Nat.le_of_eq hafter) hpays⟩
    · have happly := effort_apply_of_ok (fun run => (archive.recordingOf run).total) hreduced rfl
      rw [hneeded { session with scope, lastNonEmptyPoll := _ } hactive] at happly
      refine Or.inl (Nat.lt_of_le_of_lt happly ?_)
      rw [hneeded session hactive]
      exact hpays
  · have hreduced : session.reduce now (.loaded run reply) = (session, .ok .none) := by
      rw [reduce, onLoaded, if_neg hactive]
    exact spends_ignored (PendingFetch.effort_pos (.data run request)) hreduced (Nat.le_refl _) rfl

/-- A fetch that failed is asked for again at the earliest when something else is taken
in. -/
theorem spends_fetchFailed (session : Session) (run : RunId) (request : Request) (now : Nat) :
    session.Spends limit request.effort (session.apply (.fetchFailed run request) now).1
      (Command.queueOf (session.apply (.fetchFailed run request) now).2) := by
  refine Or.inr ⟨rfl, ?_⟩
  change (session.onFetchFailed run request).needs limit ≤ _
  rw [onFetchFailed]
  split_ifs
  · exact session.scope.needs_onFetchFailed request
  · exact Nat.le_add_right _ _

/-- What the source makes of a fetch. -/
theorem spends_outcome (session : Session) (archive : Archive) (fetch : PendingFetch) (now : Nat) :
    session.Spends (fun run => (archive.recordingOf run).total) fetch.effort
      (session.apply (Simulation.outcomeOf archive fetch) now).1
      (Command.queueOf (session.apply (Simulation.outcomeOf archive fetch) now).2) := by
  cases fetch with
  | runs =>
      rw [Simulation.outcomeOf]
      rcases DataSource.listRuns archive with error | runs
      · exact session.spends_runsFailed now
      · exact session.spends_runsLoaded runs now
  | data run request =>
      rcases archive.outcomeOf_data run request with ⟨reply, hreplies, houtcome⟩ | houtcome
      · rw [houtcome]
        exact session.spends_loaded hreplies now
      · rw [houtcome]
        exact session.spends_fetchFailed run request now

/-- A fetch that is made to fail. -/
theorem spends_failure (session : Session) (fetch : PendingFetch) (now : Nat) :
    session.Spends limit fetch.effort (session.apply (Simulation.failureOf fetch) now).1
      (Command.queueOf (session.apply (Simulation.failureOf fetch) now).2) := by
  cases fetch with
  | runs =>
      exact session.spends_runsFailed now
  | data run request => exact session.spends_fetchFailed run request now

end Session

end TraceViewer
