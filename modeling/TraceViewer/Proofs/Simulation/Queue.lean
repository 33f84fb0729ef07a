import Mathlib.Tactic.Common
import TraceViewer.Simulation.Basic

/-!
# The queue of a simulation

A command is a tree, and executing it queues its leaves in order (`execute_spec`).
The log entries that are written on the way have no influence on the rest of a
simulation.  `pending_send` is the form in which the invariants use this: an event
changes the session, and the queue grows by what the event asked for.  An event that
is refused asks for nothing.
-/

namespace TraceViewer

namespace Command

mutual

/-- The fetches of a command, in the order in which they are queued. -/
def queue : Command → List PendingFetch
  | .none => []
  | .fetchRuns => [.runs]
  | .fetch run request => [.data run request]
  | .batch commands => queueOfAll commands

/-- The fetches of several commands. -/
def queueOfAll : List Command → List PendingFetch
  | [] => []
  | command :: rest => command.queue ++ queueOfAll rest

end

theorem queueOfAll_eq (commands : List Command) :
    queueOfAll commands = commands.flatMap queue := by
  induction commands with
  | nil => rfl
  | cons command rest ih => rw [queueOfAll, ih, List.flatMap_cons]

/-- Commands that ask for nothing have no fetches, so dropping them drops none. -/
theorem flatMap_queue_filter (commands : List Command) :
    (commands.filter (!·.isNone)).flatMap queue = commands.flatMap queue := by
  induction commands with
  | nil => rfl
  | cons command rest ih =>
      have hnone : command.isNone = true → command.queue = [] := by
        cases command <;> simp [isNone, queue]
      rw [List.filter_cons, List.flatMap_cons, ← ih]
      split_ifs with hkept
      · rw [List.flatMap_cons]
      · rw [hnone (by simpa using hkept), List.nil_append]

theorem queue_combine (commands : List Command) :
    (combine commands).queue = commands.flatMap queue := by
  rw [← flatMap_queue_filter, combine]
  cases hkept : commands.filter (!·.isNone) with
  | nil => rfl
  | cons command rest =>
      cases rest with
      | nil => simp
      | cons next others => rw [queue, queueOfAll_eq]

@[simp]
theorem queue_none : Command.none.queue = [] := rfl

/-- The fetches of a transition; a refused one has none. -/
def queueOf : Except ViewError Command → List PendingFetch
  | .error _ => []
  | .ok command => command.queue

@[simp]
theorem queueOf_ok (command : Command) : queueOf (.ok command) = command.queue := rfl

@[simp]
theorem queueOf_error (error : ViewError) : queueOf (.error error) = [] := rfl

/-- Two commands are wanted one after the other. -/
theorem queueOf_combine_pair (first second : Command) :
    queueOf (.ok (combine [first, second])) = first.queue ++ second.queue := by
  rw [queueOf_ok, queue_combine, List.flatMap_cons, List.flatMap_singleton]

end Command

namespace Simulation

variable {Source : Type}

/-! ## Executing commands -/

mutual

/-- Executing a command changes the queue and the log only. -/
theorem execute_spec (simulation : Simulation Source) (command : Command) :
    (simulation.execute command).session = simulation.session ∧
      (simulation.execute command).source = simulation.source ∧
      (simulation.execute command).pending = simulation.pending ++ command.queue := by
  cases command with
  | none => exact ⟨rfl, rfl, (List.append_nil _).symm⟩
  | fetchRuns => exact ⟨rfl, rfl, rfl⟩
  | fetch run request => exact ⟨rfl, rfl, rfl⟩
  | batch commands =>
      rw [execute]
      exact executeAll_spec (simulation.record (.batch commands.length)) commands

theorem executeAll_spec (simulation : Simulation Source) (commands : List Command) :
    (simulation.executeAll commands).session = simulation.session ∧
      (simulation.executeAll commands).source = simulation.source ∧
      (simulation.executeAll commands).pending =
        simulation.pending ++ Command.queueOfAll commands := by
  cases commands with
  | nil => exact ⟨rfl, rfl, (List.append_nil _).symm⟩
  | cons command rest =>
      obtain ⟨hsession, hsource, hpending⟩ := execute_spec simulation command
      obtain ⟨hsession', hsource', hpending'⟩ :=
        executeAll_spec (simulation.execute command) rest
      rw [executeAll, hsession', hsource', hpending', hsession, hsource, hpending,
        Command.queueOfAll, List.append_assoc]
      exact ⟨rfl, rfl, rfl⟩

end

/-! ## Sending events -/

/-- An event changes the session as the session says, and queues what it asks for. -/
theorem send_spec (simulation : Simulation Source) (event : Event) :
    (simulation.send event).session = (simulation.session.apply event simulation.clock).1 ∧
      (simulation.send event).source = simulation.source ∧
      (simulation.send event).pending = simulation.pending ++
        Command.queueOf (simulation.session.apply event simulation.clock).2 := by
  rw [send]
  rcases hresult : simulation.session.apply event simulation.clock with ⟨session, error | command⟩
  · exact ⟨rfl, rfl, (List.append_nil _).symm⟩
  · exact execute_spec { simulation with session } command

theorem session_send (simulation : Simulation Source) (event : Event) :
    (simulation.send event).session = (simulation.session.apply event simulation.clock).1 :=
  (simulation.send_spec event).1

theorem source_send (simulation : Simulation Source) (event : Event) :
    (simulation.send event).source = simulation.source :=
  (simulation.send_spec event).2.1

theorem pending_send (simulation : Simulation Source) (event : Event) :
    (simulation.send event).pending = simulation.pending ++
      Command.queueOf (simulation.session.apply event simulation.clock).2 :=
  (simulation.send_spec event).2.2

end Simulation

end TraceViewer
