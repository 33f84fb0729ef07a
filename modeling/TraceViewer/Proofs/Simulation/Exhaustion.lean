import TraceViewer.Proofs.Simulation.Effort
import TraceViewer.Sample

/-!
# Deliveries run dry

Whatever led to a state of a simulation, the fetches that are pending there, and those that
completing them causes, come to an end.  They may be completed in any order, each with an
answer of the source or with a failure, and the source may be online or not.

Every completion makes the workload smaller (`workload_completeBy_lt`), so a run of
completions is no longer than the workload at its start (`length_add_workload_le`).  A run
that cannot go on has left nothing pending (`completeBy?_eq_none_iff`).  Delivering the
oldest fetch again and again is one such run, and once it has left nothing pending a higher
limit changes nothing (`deliverUpTo_of_pending_nil`).
-/

namespace TraceViewer.Simulation

variable {simulation next final : Simulation Archive}

/-- How the pending fetch at a place of the queue is completed. -/
inductive Completion where
  | deliver (index : Nat)
  | fail (index : Nat)

/-- Complete a pending fetch, if there is one at the place. -/
def completeBy? (simulation : Simulation Archive) : Completion → Option (Simulation Archive)
  | .deliver index => simulation.deliverAt? index
  | .fail index => simulation.failAt? index

/-- Complete pending fetches one after the other, if there is one at each place. -/
def completeAll? (simulation : Simulation Archive) :
    List Completion → Option (Simulation Archive)
  | [] => some simulation
  | completion :: rest =>
    (simulation.completeBy? completion).bind fun next => next.completeAll? rest

theorem source_completeBy {completion : Completion}
    (hnext : simulation.completeBy? completion = some next) :
    next.source = simulation.source := by
  cases completion with
  | deliver index =>
      rw [completeBy?, deliverAt?, Option.map_eq_some_iff] at hnext
      obtain ⟨fetch, _, rfl⟩ := hnext
      exact source_send _ _
  | fail index =>
      rw [completeBy?, failAt?, Option.map_eq_some_iff] at hnext
      obtain ⟨fetch, _, rfl⟩ := hnext
      exact source_send _ _

theorem workload_completeBy_lt {completion : Completion}
    (hnext : simulation.completeBy? completion = some next) :
    next.workload < simulation.workload := by
  cases completion with
  | deliver index => exact workload_deliverAt_lt hnext
  | fail index => exact workload_failAt_lt hnext

/-- Completing is impossible exactly when nothing is pending. -/
theorem completeBy?_eq_none_iff :
    (∀ completion, simulation.completeBy? completion = none) ↔ simulation.pending = [] := by
  constructor
  · intro hstuck
    -- a queue without a first place is empty
    have hfirst := hstuck (.deliver 0)
    rw [completeBy?, deliverAt?, Option.map_eq_none_iff, List.getElem?_eq_none_iff] at hfirst
    exact List.length_eq_zero_iff.mp (Nat.le_zero.mp hfirst)
  · intro hquiet completion
    cases completion <;> simp [completeBy?, deliverAt?, failAt?, hquiet]

theorem source_completeAll {steps : List Completion}
    (hfinal : simulation.completeAll? steps = some final) :
    final.source = simulation.source := by
  induction steps generalizing simulation with
  | nil =>
      cases hfinal
      rfl
  | cons completion rest ih =>
      obtain ⟨next, hnext, hrest⟩ := Option.bind_eq_some_iff.mp hfinal
      exact (ih hrest).trans (source_completeBy hnext)

/-- Every completion of a run is paid for by the workload at its start. -/
theorem length_add_workload_le {steps : List Completion}
    (hfinal : simulation.completeAll? steps = some final) :
    steps.length + final.workload ≤ simulation.workload := by
  induction steps generalizing simulation with
  | nil =>
      cases hfinal
      exact Nat.le_of_eq (Nat.zero_add _)
  | cons completion rest ih =>
      obtain ⟨next, hnext, hrest⟩ := Option.bind_eq_some_iff.mp hfinal
      have hless := workload_completeBy_lt hnext
      have hpaid := ih hrest
      rw [List.length_cons]
      omega

/-- Once nothing is pending no limit matters that allows the deliveries made. -/
theorem deliverUpTo_of_pending_nil {limit other : Nat}
    (hquiet : (simulation.deliverUpTo limit).1.pending = [])
    (hle : (simulation.deliverUpTo limit).2 ≤ other) :
    simulation.deliverUpTo other = simulation.deliverUpTo limit := by
  induction limit generalizing simulation other with
  | zero =>
      -- no delivery was allowed, so none was possible either
      have hnext : simulation.deliverNext? = none :=
        completeBy?_eq_none_iff.mpr hquiet (.deliver 0)
      cases other with
      | zero => rfl
      | succ other => rw [deliverUpTo, deliverUpTo, hnext]
  | succ limit ih =>
      rw [deliverUpTo] at hquiet hle ⊢
      cases hnext : simulation.deliverNext? with
      | none =>
          cases other with
          | zero => rfl
          | succ other => rw [deliverUpTo, hnext]
      | some next =>
          rw [hnext] at hquiet hle
          -- one delivery was made, so the other limit allows at least one
          obtain ⟨other, rfl⟩ : ∃ fewer, other = fewer + 1 :=
            Nat.exists_eq_succ_of_ne_zero (by dsimp only at hle; omega)
          rw [deliverUpTo, hnext]
          dsimp only
          rw [ih hquiet (Nat.le_of_succ_le_succ hle)]

/-- From any state on, completing the pending fetches in any order comes to an end, and
then nothing is pending.  Delivering them in order ends by itself: there is a number of
deliveries after which nothing is pending, and no limit that is not below it matters. -/
theorem runs_dry (simulation : Simulation Archive) :
    (∃ bound, ∀ steps final, simulation.completeAll? steps = some final →
      final.source = simulation.source ∧ steps.length ≤ bound ∧
        ((∀ completion, final.completeBy? completion = none) ↔ final.pending = [])) ∧
      ∃ final count, final.pending = [] ∧
        ∀ limit, count ≤ limit → simulation.deliverUpTo limit = (final, count) := by
  refine ⟨⟨simulation.workload, fun steps final hfinal => ?_⟩, ?_⟩
  · have hpaid := length_add_workload_le hfinal
    exact ⟨source_completeAll hfinal, by omega, completeBy?_eq_none_iff⟩
  · -- as many deliveries as the workload leave nothing pending
    obtain ⟨hquiet, _⟩ := deliverUpTo_of_workload_le (Nat.le_refl simulation.workload)
    exact ⟨_, _, hquiet, fun limit hle => deliverUpTo_of_pending_nil hquiet hle⟩

/-- A run of one execution has just been selected. -/
def selected : Simulation Archive :=
  (opening {} Config.valid_default [.run "a" 1, .execution "a" (Sample.execution "Op0" [])]).playAll
    [.send (.activeRunChanged (some "a"))]

/-- The fetch of the record fails three times.  After the first two, the answer to another
fetch makes the session ask again. -/
def stubborn : List Completion :=
  [.deliver 0, .fail 4, .deliver 0, .fail 3, .deliver 0, .fail 2, .fail 0, .fail 0]

theorem completeAll?_stubborn :
    (selected.completeAll? stubborn).map (·.pending) = some [] := by
  decide +kernel

/-- The record is never loaded, and still nothing is left to complete. -/
theorem dry_after_stubborn :
    ∃ final bound, selected.completeAll? stubborn = some final ∧ stubborn.length ≤ bound ∧
      final.pending = [] ∧ ∀ completion, final.completeBy? completion = none := by
  obtain ⟨final, hfinal, hquiet⟩ := Option.map_eq_some_iff.mp completeAll?_stubborn
  obtain ⟨⟨bound, hbound⟩, _⟩ := runs_dry selected
  obtain ⟨_, hlength, hstuck⟩ := hbound stubborn final hfinal
  exact ⟨final, bound, hfinal, hlength, hquiet, hstuck.mpr hquiet⟩

end TraceViewer.Simulation
