import TraceViewer.DirectSession
import TraceViewer.Proofs.Simulation.Queue

/-!
# Dispatches as simulations

A direct session runs each fetch as soon as it is wanted and queues the outcome, and a
simulation queues the fetch and asks the source when it is delivered.  As the source does
not change meanwhile, both see the same outcomes in the same order.

So a dispatch *mirrors* a simulation whose pending fetches have the queued events as their
outcomes (`Dispatch.Mirrors`).  The time is not part of this.  Before each event the clock of
the simulation is set to what the clock of the dispatch shows (`Simulation.atTime`); then
the event is what delivering the oldest fetch brings (`Mirrors.deliver`).
-/

namespace TraceViewer

/-- The simulation with its clock set to a time. -/
def Simulation.atTime {Source : Type} (simulation : Simulation Source) (now : Nat) :
    Simulation Source :=
  { simulation with clock := now }

namespace DirectSession

variable {Source : Type} [DataSource Source]

namespace Dispatch

variable {dispatch : Dispatch Source} {simulation : Simulation Source}

/-! ## Steps -/

mutual

/-- Running the fetches of a command queues their outcomes. -/
theorem execute_spec (dispatch : Dispatch Source) (command : Command) :
    (dispatch.execute command).direct.session = dispatch.direct.session ∧
      (dispatch.execute command).direct.source = dispatch.direct.source ∧
      (dispatch.execute command).queue = dispatch.queue ++
        command.queue.map (Simulation.outcomeOf dispatch.direct.source) ∧
      (dispatch.execute command).report.events = dispatch.report.events := by
  cases command with
  | none => exact ⟨rfl, rfl, (List.append_nil _).symm, rfl⟩
  | fetchRuns =>
      rw [execute, Command.queue, List.map_singleton, Simulation.outcomeOf]
      rcases DataSource.listRuns dispatch.direct.source with error | runs <;>
        exact ⟨rfl, rfl, rfl, rfl⟩
  | fetch run request =>
      rw [execute, Command.queue, List.map_singleton, Simulation.outcomeOf]
      rcases DataSource.fetch dispatch.direct.source run request with error | reply <;>
        exact ⟨rfl, rfl, rfl, rfl⟩
  | batch commands =>
      rw [execute]
      exact executeAll_spec dispatch commands

theorem executeAll_spec (dispatch : Dispatch Source) (commands : List Command) :
    (dispatch.executeAll commands).direct.session = dispatch.direct.session ∧
      (dispatch.executeAll commands).direct.source = dispatch.direct.source ∧
      (dispatch.executeAll commands).queue = dispatch.queue ++
        (Command.queueOfAll commands).map (Simulation.outcomeOf dispatch.direct.source) ∧
      (dispatch.executeAll commands).report.events = dispatch.report.events := by
  cases commands with
  | nil => exact ⟨rfl, rfl, (List.append_nil _).symm, rfl⟩
  | cons command rest =>
      obtain ⟨hsession, hsource, hqueue, hevents⟩ := execute_spec dispatch command
      obtain ⟨hsession', hsource', hqueue', hevents'⟩ :=
        executeAll_spec (dispatch.execute command) rest
      rw [executeAll, hsession', hsource', hqueue', hevents', hsession, hsource, hqueue, hevents,
        Command.queueOfAll, List.map_append, List.append_assoc]
      exact ⟨rfl, rfl, rfl, rfl⟩

end

theorem step_spec (dispatch : Dispatch Source) (event : Event) (now : Nat) :
    (dispatch.step event now).direct.session =
        (dispatch.direct.session.apply event now).1 ∧
      (dispatch.step event now).direct.source = dispatch.direct.source ∧
      (dispatch.step event now).queue = dispatch.queue ++
        (Command.queueOf (dispatch.direct.session.apply event now).2).map
          (Simulation.outcomeOf dispatch.direct.source) ∧
      (dispatch.step event now).report.events = dispatch.report.events + 1 := by
  rw [step]
  rcases dispatch.direct.session.apply event now with ⟨session, error | command⟩
  · exact ⟨rfl, rfl, (List.append_nil _).symm, rfl⟩
  · exact execute_spec _ command

/-- No event changes the source. -/
theorem source_drain (clock : Clock) (limit : Nat) (dispatch : Dispatch Source) :
    (drain clock limit dispatch).direct.source = dispatch.direct.source := by
  induction limit generalizing dispatch with
  | zero => rfl
  | succ limit ih =>
      rw [drain]
      cases hqueue : dispatch.queue with
      | nil => rfl
      | cons event rest =>
          rw [ih]
          exact (step_spec { dispatch with queue := rest } event _).2.1

/-! ## Mirroring -/

/-- A dispatch stands where a simulation does, whatever their clocks show. -/
structure Mirrors (dispatch : Dispatch Source) (simulation : Simulation Source) : Prop where
  session_eq : dispatch.direct.session = simulation.session
  source_eq : dispatch.direct.source = simulation.source
  /-- The outcomes of the pending fetches are queued. -/
  queue_eq : dispatch.queue = simulation.pending.map (Simulation.outcomeOf simulation.source)

theorem Mirrors.atTime (hmirrors : dispatch.Mirrors simulation) (now : Nat) :
    dispatch.Mirrors (simulation.atTime now) :=
  ⟨hmirrors.session_eq, hmirrors.source_eq, hmirrors.queue_eq⟩

/-- An event is applied at the time of the simulation. -/
theorem Mirrors.step (hmirrors : dispatch.Mirrors simulation) (event : Event) :
    (dispatch.step event simulation.clock).Mirrors (simulation.send event) := by
  obtain ⟨hsession, hsource, hqueue, _⟩ := dispatch.step_spec event simulation.clock
  refine ⟨?_, ?_, ?_⟩
  · rw [hsession, hmirrors.session_eq, Simulation.session_send]
  · rw [hsource, hmirrors.source_eq, Simulation.source_send]
  · rw [hqueue, hmirrors.queue_eq, hmirrors.session_eq, hmirrors.source_eq,
      Simulation.source_send, Simulation.pending_send, List.map_append]

theorem Mirrors.pending_eq_nil (hmirrors : dispatch.Mirrors simulation)
    (hqueue : dispatch.queue = []) : simulation.pending = [] :=
  List.map_eq_nil_iff.mp (hmirrors.queue_eq.symm.trans hqueue)

/-- Applying the first of the queued events is delivering the oldest fetch. -/
theorem Mirrors.deliver (hmirrors : dispatch.Mirrors simulation) {event : Event}
    {rest : List Event} (hqueue : dispatch.queue = event :: rest) :
    ∃ next, simulation.deliverNext? = some next ∧
      ({ dispatch with queue := rest }.step event simulation.clock).Mirrors next := by
  obtain ⟨fetch, others, hpending, hevent, hothers⟩ :=
    List.map_eq_cons_iff.mp (hmirrors.queue_eq.symm.trans hqueue)
  have hnext : simulation.deliverNext? = some ((simulation.dequeue 0).complete fetch) := by
    rw [Simulation.deliverNext?, Simulation.deliverAt?, hpending]
    rfl
  -- both take out the oldest, and what it brings is the same
  have htaken : { dispatch with queue := rest }.Mirrors
      ((simulation.dequeue 0).record (.delivered fetch)) := by
    refine ⟨hmirrors.session_eq, hmirrors.source_eq, ?_⟩
    change rest = (simulation.pending.eraseIdx 0).map (Simulation.outcomeOf simulation.source)
    rw [hpending, List.eraseIdx_cons_zero, hothers]
  refine ⟨_, hnext, ?_⟩
  rw [← hevent]
  exact htaken.step (Simulation.outcomeOf simulation.source fetch)

end Dispatch

/-! ## Dispatches -/

/-- The dispatch of an event when it has come to its end. -/
def drained (direct : DirectSession Source) (event : Event) (clock : Clock) :
    Dispatch Source :=
  Dispatch.drain clock eventLimit { direct, queue := [event] }

/-- A simulation that stands where a direct session does at a given time. -/
def simulationAt (direct : DirectSession Source) (now : Nat) : Simulation Source :=
  { session := direct.session, source := direct.source, clock := now }

/-- The dispatch of an event right after the event. -/
def started (direct : DirectSession Source) (event : Event) (clock : Clock) :
    Dispatch Source :=
  Dispatch.step { direct, queue := [] } event (clock.read 0)

/-- The event comes first, and then what it leads to. -/
theorem drained_eq (direct : DirectSession Source) (event : Event) (clock : Clock) :
    direct.drained event clock =
      Dispatch.drain clock (eventLimit - 1) (direct.started event clock) := by
  change Dispatch.drain clock (eventLimit - 1 + 1) { direct, queue := [event] } = _
  rw [Dispatch.drain]
  rfl

theorem mirrors_started (direct : DirectSession Source) (event : Event) (clock : Clock) :
    (direct.started event clock).Mirrors
      ((direct.simulationAt (clock.read 0)).send event) := by
  have hbefore : Dispatch.Mirrors { direct, queue := [] }
      (direct.simulationAt (clock.read 0)) := ⟨rfl, rfl, rfl⟩
  exact hbefore.step event

theorem events_started (direct : DirectSession Source) (event : Event) (clock : Clock) :
    (direct.started event clock).report.events = 1 :=
  (Dispatch.step_spec _ event _).2.2.2

end DirectSession

end TraceViewer
