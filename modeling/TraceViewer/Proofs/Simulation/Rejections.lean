import TraceViewer.Proofs.Session.InStep
import TraceViewer.Proofs.Simulation.Healing
import TraceViewer.Proofs.Simulation.LostSlots
import TraceViewer.Simulation.Storm

/-!
# Which events are refused

When the listing selects a run once and for all, the session refuses what the user asks in
two cases: to scroll past the last full window, and to show a file that is not listed.
Whatever comes of a fetch is accepted, in whichever order the fetches are delivered, twice
or not at all, and while the archive goes offline and records more (`errors_are_mistakes`).

## Strategy

* A schedule that neither selects nor adds a run (`Move.KeepsRun`) keeps the session in
  step with the archive (`InStep`, `inStep_playAll`), and a session that is in step accepts
  outcomes (`Session.outcome_accepted`).
* So one move adds an error only when it sends a mistake (`errors_play`), and every error
  of a schedule has such a move (`mem_errors_playAll`).
* Each action of a storm is a schedule (`perform_eq_playAll`), and the places that it scrolls
  to are drawn from those that the window can start at (`chooseAction_inBounds`).
-/

namespace TraceViewer

/-- Whether a move selects no run and adds none. -/
def Move.KeepsRun : Move → Prop
  | .send event => event.isUser = true ∧ ∀ run, event ≠ .activeRunChanged run
  | .add addition => ∀ run startTime, addition ≠ .run run startTime
  | .deliver _ | .duplicate _ | .fail _ | .advance _ | .setOffline _ => True

theorem Move.KeepsRun.isFair {move : Move} (hkeeps : move.KeepsRun) : move.IsFair := by
  cases move with
  | send event => exact hkeeps.1
  | _ => trivial

namespace Simulation

/-! ## Errors of an event -/

section Errors

variable {Source : Type}

mutual

theorem errors_execute (simulation : Simulation Source) (command : Command) :
    (simulation.execute command).errors = simulation.errors := by
  cases command with
  | none | fetchRuns | fetch => rfl
  | batch commands =>
      rw [execute]
      exact errors_executeAll _ commands

theorem errors_executeAll (simulation : Simulation Source) (commands : List Command) :
    (simulation.executeAll commands).errors = simulation.errors := by
  cases commands with
  | nil => rfl
  | cons command rest =>
      rw [executeAll, errors_executeAll _ rest, errors_execute simulation command]

end

variable {simulation : Simulation Source} {event : Event}

/-- An event that the session accepts leaves the errors as they are. -/
theorem errors_send_of_accepted
    (haccepted : ∀ after error,
      simulation.session.reduce simulation.clock event ≠ (after, .error error)) :
    (simulation.send event).errors = simulation.errors := by
  rw [send]
  rcases simulation.session.apply_cases event simulation.clock with
    hsame | ⟨reduced, command, _, hsettled⟩
  · rw [hsame]
    rcases hreduced : simulation.session.reduce simulation.clock event with
      ⟨after, error | command⟩
    · exact absurd hreduced (haccepted after error)
    · exact errors_execute _ command
  · rw [hsettled]
    exact errors_execute _ _

/-- An event that the session refuses adds its error. -/
theorem errors_send_of_refused {error : ViewError}
    (hrefused : (simulation.session.reduce simulation.clock event).2 = .error error) :
    (simulation.send event).errors = simulation.errors.push error := by
  rw [send, Session.apply_of_error (Prod.ext rfl hrefused)]

end Errors

variable {simulation : Simulation Archive}

/-! ## Being in step -/

/-- What holds throughout a schedule that keeps the run. -/
structure InStep (simulation : Simulation Archive) : Prop where
  aligned : simulation.Aligned
  session : simulation.session.InStep simulation.source simulation.pending

theorem inStep_opening (config : Config) (valid : config.Valid) (additions : List Addition) :
    (opening config valid additions).InStep where
  aligned := aligned_opening config valid additions
  session := Session.inStep_fresh config valid

/-- An event after which the session is in step. -/
theorem session_inStep_send (simulation : Simulation Archive) {event : Event}
    (hbacked : (simulation.session.reduce simulation.clock event).1.Backed
      (fun run => (simulation.source.recordingOf run).total)
      (simulation.pending ++
        Command.queueOf (simulation.session.reduce simulation.clock event).2))
    (hreduced : (simulation.session.reduce simulation.clock event).1.InStep simulation.source
      (simulation.pending ++
        Command.queueOf (simulation.session.reduce simulation.clock event).2)) :
    (simulation.send event).session.InStep (simulation.send event).source
      (simulation.send event).pending := by
  rw [session_send, source_send, pending_send]
  exact Session.inStep_apply hbacked hreduced

theorem session_inStep_answered (hstep : simulation.InStep) {after : Simulation Archive}
    (hanswered : simulation.Answered after) :
    after.session.InStep after.source after.pending := by
  have hbacked := hstep.aligned.backed.session
  have hshaped := hstep.aligned.shaped
  cases hanswered with
  -- nothing is pending at the place
  | idle => exact hstep.session
  | @outcome fetch rest entry _ hsub hothers =>
      have hanswers := Archive.answers_outcomeOf hstep.aligned.backed.keyed fetch
      exact session_inStep_send ({ simulation with pending := rest }.record entry)
        (Session.backed_reduce_answer hbacked hothers simulation.clock hanswers)
        (Session.inStep_reduce_outcome hstep.session hbacked hshaped fetch hsub simulation.clock)
  | @failure fetch rest entry _ hsub hothers =>
      exact session_inStep_send ({ simulation with pending := rest }.record entry)
        (Session.backed_reduce_answer hbacked hothers simulation.clock
          fetch.answers_failureOf)
        (Session.inStep_reduce_failure hstep.session fetch hsub simulation.clock)

theorem inStep_play (hstep : simulation.InStep) {move : Move} (hkeeps : move.KeepsRun) :
    (simulation.play move).InStep := by
  refine ⟨aligned_play hstep.aligned hkeeps.isFair, ?_⟩
  cases move with
  | send event =>
      obtain ⟨huser, hstays⟩ := hkeeps
      have hbacked := hstep.aligned.backed.session
      exact session_inStep_send simulation
        (Session.backed_reduce_user hbacked simulation.clock huser)
        (Session.inStep_reduce_user hstep.session hbacked hstep.aligned.shaped simulation.clock
          huser hstays)
  | deliver index => exact session_inStep_answered hstep (simulation.answered_deliver index)
  | duplicate index => exact session_inStep_answered hstep (simulation.answered_duplicate index)
  | fail index => exact session_inStep_answered hstep (simulation.answered_fail index)
  | advance time => exact hstep.session
  | add addition => exact hstep.session.add (Archive.listing_add hkeeps)
  | setOffline offline => exact ⟨hstep.session.1, hstep.session.2, hstep.session.3, hstep.session.4⟩

theorem inStep_playAll (hstep : simulation.InStep) {moves : List Move}
    (hkeeps : ∀ move ∈ moves, move.KeepsRun) : (simulation.playAll moves).InStep := by
  induction moves generalizing simulation with
  | nil => exact hstep
  | cons move rest ih =>
      rw [List.forall_mem_cons] at hkeeps
      exact ih (inStep_play hstep hkeeps.1) hkeeps.2

theorem inStep_init (config : Config) (valid : config.Valid) (additions : List Addition) :
    (opening config valid additions).init.InStep := by
  have hlists : Move.KeepsRun (.send .runsRequested) := ⟨rfl, nofun⟩
  exact inStep_play (inStep_opening config valid additions) hlists

/-! ## Errors of a schedule -/

/-- No answer is refused. -/
theorem errors_answered (hstep : simulation.InStep) {after : Simulation Archive}
    (hanswered : simulation.Answered after) : after.errors = simulation.errors := by
  cases hanswered with
  | idle => rfl
  | outcome entry hpending =>
      exact errors_send_of_accepted fun _ _ =>
        Session.outcome_accepted hstep.session hstep.aligned.backed.session hstep.aligned.shaped
          hstep.aligned.backed.keyed hpending (hstep.aligned.proper _ hpending) simulation.clock
  | failure entry => exact errors_send_of_accepted fun _ _ => Session.failure_accepted _ _

theorem errors_send_of_no_mistake (hstep : simulation.InStep) {event : Event}
    (huser : event.isUser = true) (hnone : ∀ error, ¬ simulation.session.Mistake event error) :
    (simulation.send event).errors = simulation.errors :=
  errors_send_of_accepted fun _ error hrefused => hnone error
    ((Session.reduce_error_iff hstep.aligned.shaped huser simulation.clock).mp
      (congrArg Prod.snd hrefused))

theorem errors_send_of_mistake (hstep : simulation.InStep) {event : Event}
    (huser : event.isUser = true) {error : ViewError}
    (hmistake : simulation.session.Mistake event error) :
    (simulation.send event).errors = simulation.errors.push error :=
  errors_send_of_refused
    ((Session.reduce_error_iff hstep.aligned.shaped huser simulation.clock).mpr hmistake)

/-- A move adds an error only by sending a mistake. -/
theorem errors_play (hstep : simulation.InStep) {move : Move} (hkeeps : move.KeepsRun) :
    (simulation.play move).errors = simulation.errors ∨
      ∃ event error, move = .send event ∧ simulation.session.Mistake event error ∧
        (simulation.play move).errors = simulation.errors.push error := by
  cases move with
  | send event =>
      by_cases hmistake : ∃ error, simulation.session.Mistake event error
      · obtain ⟨error, hmistake⟩ := hmistake
        exact Or.inr
          ⟨event, error, rfl, hmistake, errors_send_of_mistake hstep hkeeps.1 hmistake⟩
      · exact Or.inl (errors_send_of_no_mistake hstep hkeeps.1 (not_exists.mp hmistake))
  | deliver index => exact Or.inl (errors_answered hstep (simulation.answered_deliver index))
  | duplicate index => exact Or.inl (errors_answered hstep (simulation.answered_duplicate index))
  | fail index => exact Or.inl (errors_answered hstep (simulation.answered_fail index))
  | advance | add | setOffline => exact Or.inl rfl

/-- Every error that a schedule adds has a move that sent the mistake. -/
theorem mem_errors_playAll (hstep : simulation.InStep) {moves : List Move}
    (hkeeps : ∀ move ∈ moves, move.KeepsRun) {error : ViewError}
    (hmem : error ∈ (simulation.playAll moves).errors) :
    error ∈ simulation.errors ∨
      ∃ (before : List Move) (event : Event) (after : List Move),
        moves = before ++ Move.send event :: after ∧
        (simulation.playAll before).session.Mistake event error ∧
        ((simulation.playAll before).send event).errors =
          (simulation.playAll before).errors.push error := by
  induction moves generalizing simulation with
  | nil => exact Or.inl hmem
  | cons move rest ih =>
      rw [List.forall_mem_cons] at hkeeps
      rcases ih (inStep_play hstep hkeeps.1) hkeeps.2 hmem with
        hearlier | ⟨before, event, after, rfl, hmistake⟩
      · -- the error was there after the first move
        rcases errors_play hstep hkeeps.1 with hsame | ⟨event, added, rfl, hmistake, hpushed⟩
        · rw [hsame] at hearlier
          exact Or.inl hearlier
        · rw [hpushed, Array.mem_push] at hearlier
          rcases hearlier with hold | rfl
          · exact Or.inl hold
          · exact Or.inr ⟨[], event, rest, rfl, hmistake, hpushed⟩
      · exact Or.inr ⟨move :: before, event, after, rfl, hmistake⟩

/-- Delivering what is pending adds no error. -/
theorem errors_deliverUpTo (hstep : simulation.InStep) (limit : Nat) :
    (simulation.deliverUpTo limit).1.InStep ∧
      (simulation.deliverUpTo limit).1.errors = simulation.errors := by
  refine deliverUpTo_of_step
    (motive := fun later => later.InStep ∧ later.errors = simulation.errors) ?_ ⟨hstep, rfl⟩ limit
  rintro before after hnext ⟨hbefore, herrors⟩
  rw [← play_deliver_zero hnext]
  exact ⟨inStep_play hbefore trivial,
    (errors_answered hbefore (before.answered_deliver 0)).trans herrors⟩

end Simulation

/-! ## Storms -/

theorem RandomState.below_lt (random : RandomState) {bound : Nat} (hpos : 0 < bound) :
    (random.below bound).2 < bound := by
  rw [below, if_neg (Nat.ne_of_gt hpos)]
  exact Nat.mod_lt _ hpos

namespace StormAction

/-- The moves that an action consists of. -/
def moves : StormAction → List Move
  | .scrollLeft kind => [.send (.scrollLeft kind)]
  | .scrollRight kind => [.send (.scrollRight kind)]
  | .scrollToIndex kind index => [.send (.scrollToIndex kind index)]
  | .deliver index => [.deliver index]
  | .duplicate index => [.duplicate index]
  | .fail index => [.fail index]
  | .idle => []

/-- Whether an action scrolls, if at all, to where the window can start. -/
def InBounds (scope : RunScope) : StormAction → Prop
  | .scrollToIndex kind index =>
    index ≤ (scope.window kind).maxScrollBegin (scope.numItems kind)
  | _ => True

theorem keepsRun_of_mem_moves {action : StormAction} {move : Move}
    (hmove : move ∈ action.moves) : move.KeepsRun := by
  cases action with
  | idle => cases hmove
  | _ =>
      rw [moves, List.mem_singleton] at hmove
      subst hmove
      simp [Move.KeepsRun, Event.isUser]

end StormAction

namespace Storm

open Simulation

variable {simulation : Simulation Archive}

theorem perform_eq_playAll (simulation : Simulation Archive) (action : StormAction) :
    perform simulation action = simulation.playAll action.moves := by
  cases action <;> rfl

/-- The places that a storm scrolls to are drawn from those that the window can start at. -/
theorem chooseScroll_inBounds (random : RandomState) (scope : RunScope) :
    (chooseScroll random scope).2.InBounds scope := by
  rw [chooseScroll]
  rcases random.below 4 with ⟨random, quarter⟩
  dsimp only
  generalize (if quarter = 0 then SequenceKind.graphExecutions else .executions) = kind
  rcases random.below 3 with ⟨random, way⟩
  dsimp only
  split_ifs
  · trivial
  · trivial
  · trivial
  · let last := (scope.window kind).maxScrollBegin (scope.numItems kind)
    exact Nat.le_of_lt_succ (random.below_lt (Nat.succ_pos last))

theorem chooseAction_inBounds (config : StormConfig) (random : RandomState)
    (simulation : Simulation Archive) :
    (chooseAction config random simulation).2.InBounds simulation.session.scope := by
  rw [chooseAction]
  split_ifs with hquiet
  · exact chooseScroll_inBounds ..
  · rcases random.happens config.scrollChance with ⟨random, scrolls⟩
    dsimp only
    split_ifs
    · exact chooseScroll_inBounds ..
    · rw [chooseDelivery]
      rcases random.below simulation.pending.length with ⟨random, index⟩
      dsimp only
      split_ifs <;> trivial

/-- An action in bounds adds no error. -/
theorem errors_perform (hstep : simulation.InStep) {action : StormAction}
    (hbounds : action.InBounds simulation.session.scope) :
    (perform simulation action).errors = simulation.errors := by
  cases action with
  | idle => rfl
  | deliver index => exact errors_answered hstep (simulation.answered_deliver index)
  | duplicate index => exact errors_answered hstep (simulation.answered_duplicate index)
  | fail index => exact errors_answered hstep (simulation.answered_fail index)
  | scrollLeft kind | scrollRight kind => exact errors_send_of_no_mistake hstep rfl nofun
  | scrollToIndex kind index =>
      refine errors_send_of_no_mistake hstep rfl fun error hmistake => ?_
      cases hmistake with
      | outOfRange _ _ _ hpast => exact absurd hbounds (Nat.not_le.mpr hpast)

theorem blow_spec (config : StormConfig) (steps : Nat) (random : RandomState)
    (hstep : simulation.InStep) :
    (blow config steps random simulation).1.InStep ∧
      (blow config steps random simulation).1.errors = simulation.errors := by
  induction steps generalizing random simulation with
  | zero => exact ⟨hstep, rfl⟩
  | succ steps ih =>
      -- what a storm does is made of moves, and so is the tick after it
      let action := (chooseAction config random simulation).2
      have hperformed : (perform simulation action).InStep := by
        rw [perform_eq_playAll]
        exact inStep_playAll hstep fun _ => StormAction.keepsRun_of_mem_moves
      have hkeeps : Move.KeepsRun (.advance stepTime) := trivial
      have hadvanced : ((perform simulation action).advance stepTime).InStep :=
        inStep_play hperformed hkeeps
      obtain ⟨hlater, herrors⟩ := ih (chooseAction config random simulation).1 hadvanced
      exact ⟨hlater, herrors.trans
        (errors_perform hstep (chooseAction_inBounds config random simulation))⟩

/-- A storm adds no error to a simulation that is in step. -/
theorem errors_run (config : StormConfig) (hstep : simulation.InStep) :
    (run config simulation).1.errors = simulation.errors := by
  obtain ⟨hblown, herrors⟩ := blow_spec config config.steps (.ofSeed config.seed) hstep
  exact (errors_deliverUpTo hblown deliveryLimit).2.trans herrors

end Storm

/-! ## Schedules that keep the run -/

namespace Simulation

/-- The runs are listed once, and then the schedule neither selects nor adds a run.  Then
every error is a mistake that a move sent; answering or failing a fetch adds none, and no
storm does, neither here nor on a simulation that has just been opened. -/
theorem errors_are_mistakes (config : Config) (valid : config.Valid) (additions : List Addition)
    (moves : List Move) (hkeeps : ∀ move ∈ moves, move.KeepsRun) :
    let initial := (opening config valid additions).init
    let simulation := initial.playAll moves
    (∀ error ∈ simulation.errors, ∃ (before : List Move) (event : Event) (after : List Move),
      moves = before ++ Move.send event :: after ∧
      (initial.playAll before).session.Mistake event error ∧
      ((initial.playAll before).send event).errors =
        (initial.playAll before).errors.push error) ∧
    (∀ index, (simulation.play (.deliver index)).errors = simulation.errors ∧
      (simulation.play (.duplicate index)).errors = simulation.errors ∧
      (simulation.play (.fail index)).errors = simulation.errors) ∧
    ∀ storm, (Storm.run storm simulation).1.errors = simulation.errors ∧
      (Storm.run storm (opened (.fresh config valid) (Archive.ofAdditions additions))).1.errors = #[] := by
  intro initial simulation
  have hinitial : initial.InStep := inStep_init config valid additions
  have hnone : initial.errors = #[] :=
    errors_send_of_no_mistake (inStep_opening config valid additions) rfl nofun
  have hstep : simulation.InStep := inStep_playAll hinitial hkeeps
  refine ⟨fun error hmem => ?_, fun index => ⟨?_, ?_, ?_⟩, fun storm => ⟨?_, ?_⟩⟩
  · -- asking for the listing was no mistake
    refine (mem_errors_playAll hinitial hkeeps hmem).resolve_left ?_
    rw [hnone]
    exact Array.not_mem_empty error
  · exact errors_answered hstep (simulation.answered_deliver index)
  · exact errors_answered hstep (simulation.answered_duplicate index)
  · exact errors_answered hstep (simulation.answered_fail index)
  · exact Storm.errors_run storm hstep
  · obtain ⟨hopened, herrors⟩ := errors_deliverUpTo hinitial deliveryLimit
    exact (Storm.errors_run storm hopened).trans (herrors.trans hnone)

/-- The listing arrives, and then the first total, which stays pending. -/
def listingMoves : List Move := [.deliver 0, .duplicate 0]

/-- A run is active, and its window cannot be scrolled. -/
theorem playAll_listingMoves :
    let simulation := (opening {} (by decide) single).init.playAll listingMoves
    simulation.errors.size = 0 ∧ simulation.session.activeRun = some "a" ∧
      (simulation.session.scope.window .executions).maxScrollBegin
        (simulation.session.scope.numItems .executions) = 0 := by
  cbv

/-- The window is scrolled past its end. -/
def hastyMoves : List Move := listingMoves ++ [Move.send (.scrollToIndex .executions 5)]

/-- A scroll past the end is refused, and no storm adds an error to its. -/
theorem scroll_past_end_refused :
    let simulation := (opening {} (by decide) single).init.playAll hastyMoves
    simulation.errors = #[.outOfRange 5 0] ∧
      ∀ storm, (Storm.run storm simulation).1.errors = #[.outOfRange 5 0] := by
  intro simulation
  let before := (opening {} (by decide) single).init.playAll listingMoves
  obtain ⟨hnone, hactive, hlast⟩ := playAll_listingMoves
  have hpast : (before.session.scope.window .executions).maxScrollBegin
      (before.session.scope.numItems .executions) < 5 := by
    rw [show (before.session.scope.window .executions).maxScrollBegin
      (before.session.scope.numItems .executions) = 0 from hlast]
    decide
  have hbefore : before.InStep :=
    inStep_playAll (inStep_init ..) (by simp [listingMoves, Move.KeepsRun])
  have herrors : simulation.errors = #[.outOfRange 5 0] := by
    have hpushed := errors_send_of_mistake hbefore rfl (.outOfRange hactive .executions 5 hpast)
    rw [Array.eq_empty_of_size_eq_zero hnone, hlast] at hpushed
    have hlater : simulation = before.playAll [Move.send (.scrollToIndex .executions 5)] :=
      playAll_append _ listingMoves _
    rw [hlater, playAll, List.foldl_cons, List.foldl_nil, play]
    exact hpushed
  have hmistakes := errors_are_mistakes {} (by decide) single hastyMoves
    (by simp [hastyMoves, listingMoves, Move.KeepsRun, Event.isUser])
  exact ⟨herrors, fun storm => (hmistakes.2.2 storm).1.trans herrors⟩

end Simulation

end TraceViewer
