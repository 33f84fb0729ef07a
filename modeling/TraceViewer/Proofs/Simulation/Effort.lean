import Mathlib.Tactic.Ring
import TraceViewer.Proofs.Session.Effort
import TraceViewer.Proofs.Simulation.Schedule

/-!
# Deliveries come to an end

Delivering the pending fetches stops at a limit.  The limit is never what ends it: every
delivery makes a measure smaller, and the measure is small after an event of the user.

The measure is `e² + p`, where `p` fetches are pending and `e` is the effort that is due:
that of the pending fetches and that of what the session still needs.  Either a delivery
makes `e` smaller, and then it queues at most as many fetches as effort is left, or it
leaves `e` and queues none (`Session.Spends`).  In the first case `e²` pays for what is
queued.
-/

namespace TraceViewer

/-- Less effort pays for the fetches that are queued instead. -/
theorem square_add_lt {before after rest more : Nat} (heffort : after < before)
    (hmore : more ≤ after) : after * after + (rest + more) < before * before + (rest + 1) := by
  have hsquare : (after + 1) * (after + 1) ≤ before * before := Nat.mul_le_mul heffort heffort
  have hexpand : (after + 1) * (after + 1) = after * after + after + (after + 1) := by ring
  omega

theorem effortOf_eraseIdx {queue : List PendingFetch} {index : Nat} {fetch : PendingFetch}
    (hfetch : queue[index]? = some fetch) :
    effortOf (queue.eraseIdx index) + fetch.effort = effortOf queue := by
  induction queue generalizing index with
  | nil => cases hfetch
  | cons head rest ih =>
      cases index with
      | zero =>
          rw [List.getElem?_cons_zero, Option.some.injEq] at hfetch
          rw [List.eraseIdx_cons_zero, effortOf_cons, hfetch, Nat.add_comm]
      | succ index =>
          rw [List.getElem?_cons_succ] at hfetch
          rw [List.eraseIdx_cons_succ, effortOf_cons, effortOf_cons, ← ih hfetch, Nat.add_assoc]

namespace Simulation

variable {simulation next : Simulation Archive}

/-- The effort that is due: that of the pending fetches and that of what the session
needs. -/
def effort (simulation : Simulation Archive) : Nat :=
  effortOf simulation.pending +
    simulation.session.needs fun run => (simulation.source.recordingOf run).total

/-- What every delivery makes smaller. -/
def workload (simulation : Simulation Archive) : Nat :=
  simulation.effort * simulation.effort + simulation.pending.length

/-- An answer to a fetch that is taken out of the queue makes the workload smaller. -/
theorem workload_send_lt {index : Nat} {fetch : PendingFetch}
    (hfetch : simulation.pending[index]? = some fetch) (entry : LogRecord) {event : Event}
    (hspends : simulation.session.Spends
      (fun run => (simulation.source.recordingOf run).total) fetch.effort
      (simulation.session.apply event simulation.clock).1
      (Command.queueOf (simulation.session.apply event simulation.clock).2)) :
    (((simulation.dequeue index).record entry).send event).workload < simulation.workload := by
  let staged := (simulation.dequeue index).record entry
  let limit := fun run => (simulation.source.recordingOf run).total
  rcases happly : simulation.session.apply event simulation.clock with ⟨after, result⟩
  have hspends : simulation.session.Spends limit fetch.effort after (Command.queueOf result) := by
    rw [happly] at hspends
    exact hspends
  have hstaged : staged.session.apply event staged.clock = (after, result) := happly
  have hpending : (staged.send event).pending =
      simulation.pending.eraseIdx index ++ Command.queueOf result := by
    rw [pending_send, hstaged]
    rfl
  have heffort : (staged.send event).effort = effortOf (simulation.pending.eraseIdx index) +
      effortOf (Command.queueOf result) + after.needs limit := by
    rw [effort, hpending, effortOf_append, source_send, session_send, hstaged]
    rfl
  have hbefore : simulation.effort =
      effortOf simulation.pending + simulation.session.needs limit := rfl
  have herase := effortOf_eraseIdx hfetch
  have hlength := List.length_eraseIdx_of_lt (List.getElem?_eq_some_iff.mp hfetch).1
  have hpos : 0 < simulation.pending.length :=
    Nat.lt_of_le_of_lt (Nat.zero_le index) (List.getElem?_eq_some_iff.mp hfetch).1
  change (staged.send event).workload < _
  rw [workload, workload, hpending, List.length_append, hlength]
  rcases hspends with hless | ⟨hnone, hneeds⟩
  · -- less effort is left, and the square of it pays for whatever is queued
    have hshort := length_le_effortOf (Command.queueOf result)
    have hpaid := @square_add_lt simulation.effort (staged.send event).effort
      (simulation.pending.length - 1) (Command.queueOf result).length (by omega) (by omega)
    omega
  · -- nothing is queued, so the queue is shorter and no more effort is due
    rw [hnone, effortOf_nil] at heffort
    have hsquare := Nat.mul_le_mul (show (staged.send event).effort ≤ simulation.effort by omega)
      (show (staged.send event).effort ≤ simulation.effort by omega)
    rw [hnone, List.length_nil]
    omega

theorem workload_deliverAt_lt {index : Nat} (hnext : simulation.deliverAt? index = some next) :
    next.workload < simulation.workload := by
  rw [deliverAt?, Option.map_eq_some_iff] at hnext
  obtain ⟨fetch, hfetch, rfl⟩ := hnext
  exact workload_send_lt hfetch _ (simulation.session.spends_outcome _ fetch _)

theorem workload_failAt_lt {index : Nat} (hnext : simulation.failAt? index = some next) :
    next.workload < simulation.workload := by
  rw [failAt?, Option.map_eq_some_iff] at hnext
  obtain ⟨fetch, hfetch, rfl⟩ := hnext
  exact workload_send_lt hfetch _ (simulation.session.spends_failure fetch _)

/-- A limit that is not below the workload suffices. -/
theorem deliverUpTo_of_workload_le {limit : Nat} (hlimit : simulation.workload ≤ limit) :
    (simulation.deliverUpTo limit).1.pending = [] ∧
      (simulation.deliverUpTo limit).2 ≤ simulation.workload := by
  induction limit generalizing simulation with
  | zero =>
      -- no workload means an empty queue
      have hempty : simulation.pending.length = 0 := by
        rw [workload] at hlimit
        omega
      exact ⟨List.length_eq_zero_iff.mp hempty, Nat.zero_le _⟩
  | succ limit ih =>
      rw [deliverUpTo]
      cases hnext : simulation.deliverNext? with
      | none =>
          rw [deliverNext?, deliverAt?, Option.map_eq_none_iff, List.getElem?_eq_none_iff] at hnext
          exact ⟨List.length_eq_zero_iff.mp (Nat.le_zero.mp hnext), Nat.zero_le _⟩
      | some next =>
          have hless := workload_deliverAt_lt hnext
          obtain ⟨hempty, hcount⟩ := @ih next (by omega)
          exact ⟨hempty, by dsimp only; omega⟩

/-- After an event of the user that finds nothing pending. -/
theorem workload_send_user_le (hquiet : simulation.pending = []) {event : Event}
    (huser : event.isUser = true) : (simulation.send event).workload ≤ 506 := by
  have heffort : (simulation.send event).effort ≤ 22 := by
    rw [effort, pending_send, source_send, session_send, hquiet, List.nil_append]
    exact simulation.session.effort_apply_user simulation.clock huser
  have hlength : (simulation.send event).pending.length ≤ 22 := by
    have hshort := length_le_effortOf (simulation.send event).pending
    rw [effort] at heffort
    omega
  have hsquare := Nat.mul_le_mul heffort heffort
  rw [workload]
  omega

end Simulation

end TraceViewer
