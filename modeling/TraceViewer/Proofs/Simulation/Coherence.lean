import TraceViewer.Sample
import TraceViewer.Proofs.Session.CoherentEvents
import TraceViewer.Proofs.Simulation.Backing

/-!
# Everything shown was recorded

In a simulation against an archive everything that the session holds of its active run
is what the archive has in the same place, at every moment and whatever the schedule
(`everything_held_is_recorded`).  The archive may record more all the time, as long as it
replaces nothing (`OnlyAdds`): a frame, an op or a file under a key that is taken would
make the session's copy stale, and the session never asks for one again.

A reply is computed when it is delivered, not when it was asked for, so a page may come
back longer than the window that asked for it, and a stale reply may speak of a run that
is no longer active.  Neither matters here: whatever comes is what the archive has.
-/

namespace TraceViewer

/-! ## Recordings that grow -/

/-- What is in a list already stays where it is when more is added at the end. -/
theorem getElem?_append_of_some {α : Type} {all : List α} {index : Nat} {item : α}
    (hitem : all[index]? = some item) (more : List α) : (all ++ more)[index]? = some item := by
  rw [List.getElem?_append_left (List.getElem?_eq_some_iff.mp hitem).1]
  exact hitem

namespace Recording

/-- An op under a key that is free replaces nothing. -/
theorem extends_insertOp {recording : Recording} {added : GraphOp}
    (hfree : ∀ graphId, added.graphId? = some graphId →
      recording.op? { graphId, opName := added.opName } = none) :
    recording.Extends (recording.insertOp added) := by
  have hops : ∀ {key : GraphOpKey} {op : GraphOp}, recording.op? key = some op →
      (recording.insertOp added).op? key = some op := by
    intro key op hop
    rw [op?_insertOp, if_neg]
    · exact hop
    · -- the name of the new op is free in its graph
      rintro ⟨hgraph, hname⟩
      have hnone := hfree key.graphId hgraph
      rw [hname] at hnone
      exact absurd (hnone.symm.trans hop) (by simp)
  have hself := extends_self recording
  rw [insertOp] at hops ⊢
  cases hgraph : added.graphId? with
  | none => exact hself
  | some graphId =>
      rw [hgraph] at hops
      exact { hself with ops := hops }

/-- An addition that replaces nothing. -/
theorem extends_change {archive : Archive} {addition : Addition}
    (hkeeps : archive.Keeps addition) :
    (archive.recordingOf addition.about).Extends
      (addition.change (archive.recordingOf addition.about)) := by
  have hself := extends_self (archive.recordingOf addition.about)
  have htotal := total_change (archive.recordingOf addition.about) addition
  cases addition with
  | run id startTime => exact { hself with }
  | execution id record =>
      exact { hself with
        executions := fun hexecution => getElem?_append_of_some hexecution [record]
        total_le := htotal }
  | graphExecution id record =>
      exact { hself with
        graphExecutions := fun hexecution => getElem?_append_of_some hexecution [record]
        total_le := htotal }
  | frame id name line =>
      -- the name is new, so no recorded frame goes by it
      refine { hself with frames := fun {other frame} hframe => ?_ }
      change ((archive.recordingOf id).frames.insert name line)[other]? = some frame
      rw [Std.ExtTreeMap.getElem?_insert, if_neg]
      · exact hframe
      · rw [Std.LawfulEqOrd.compare_eq_iff_eq]
        rintro rfl
        have hmem : name ∈ (archive.recordingOf id).frames :=
          Std.ExtTreeMap.mem_iff_isSome_getElem?.mpr (Option.isSome_of_eq_some hframe)
        exact hkeeps hmem
  | op id added => exact extends_insertOp hkeeps
  | file id name lines =>
      refine { hself with files := fun {other found} hfile => ?_ }
      change ((archive.recordingOf id).sourceFiles.insert name lines)[other]? = some found
      rw [Std.ExtTreeMap.getElem?_insert, if_neg]
      · exact hfile
      · rw [Std.LawfulEqOrd.compare_eq_iff_eq]
        rintro rfl
        have hmem : name ∈ (archive.recordingOf id).sourceFiles :=
          Std.ExtTreeMap.mem_iff_isSome_getElem?.mpr (Option.isSome_of_eq_some hfile)
        exact hkeeps hmem
  | alert id raised =>
      refine { hself with alerts := fun {alertType ordinal alert} halert => ?_ }
      change (((archive.recordingOf id).alerts ++ [raised]).filter _)[ordinal]? = some alert
      rw [List.filter_append]
      exact getElem?_append_of_some halert _

end Recording

/-- An addition that replaces nothing extends every recording. -/
theorem Archive.extends_add {archive : Archive} {addition : Addition}
    (hkeeps : archive.Keeps addition) (run : RunId) :
    (archive.recordingOf run).Extends ((archive.add addition).recordingOf run) := by
  rcases archive.recordingOf_add addition run with hsame | ⟨rfl, hchanged⟩
  · rw [hsame]
    exact Recording.extends_self _
  · rw [hchanged]
    exact Recording.extends_change hkeeps

/-! ## Schedules -/

namespace Simulation

variable {simulation : Simulation Archive}

/-- Whether a move leaves what is recorded already as it is. -/
def Keeps (simulation : Simulation Archive) : Move → Prop
  | .add addition => simulation.source.Keeps addition
  | _ => True

/-- Whether moves, carried out one after the other, replace nothing that is recorded. -/
def OnlyAdds (simulation : Simulation Archive) : List Move → Prop
  | [] => True
  | move :: rest => simulation.Keeps move ∧ (simulation.play move).OnlyAdds rest

/-- What holds of a simulation throughout: the session is backed by the queue and coherent
with the archive. -/
structure Coherent (simulation : Simulation Archive) : Prop where
  backed : simulation.Backed
  session : simulation.session.Coherent simulation.source

theorem coherent_opening (config : Config) (valid : config.Valid) (additions : List Addition) :
    (opening config valid additions).Coherent where
  backed := backed_opening config valid additions
  session := Session.coherent_fresh config valid _

/-- An event that leaves the session coherent with the archive. -/
theorem coherent_send {event : Event}
    (hreduced : (simulation.session.reduce simulation.clock event).1.Coherent
      simulation.source) :
    (simulation.send event).session.Coherent (simulation.send event).source := by
  rw [session_send, source_send]
  exact Session.coherent_apply hreduced

/-- Every fair move that replaces nothing keeps the simulation coherent. -/
theorem coherent_play (hcoherent : simulation.Coherent) {move : Move} (hfair : move.IsFair)
    (hkeeps : simulation.Keeps move) : (simulation.play move).Coherent := by
  refine ⟨backed_play hcoherent.backed hfair, ?_⟩
  have hsession := hcoherent.session
  have hbacked := hcoherent.backed.session
  -- delivered or duplicated, the fetch is answered from the same recording
  have hcompleted : ∀ (fetch : PendingFetch) (pending : List PendingFetch),
      (complete { simulation with pending } fetch).session.Coherent
        (complete { simulation with pending } fetch).source := by
    intro fetch pending
    exact coherent_send (Session.coherent_reduce_outcome hsession hbacked
      hcoherent.backed.keyed simulation.clock fetch)
  cases move with
  | send event => exact coherent_send (Session.coherent_reduce_user hsession hbacked _ hfair)
  | deliver index =>
      rw [play, deliverAt?]
      cases simulation.pending[index]? with
      | none => exact hsession
      | some fetch => exact hcompleted fetch _
  | duplicate index =>
      rw [play, duplicateAt?]
      cases simulation.pending[index]? with
      | none => exact hsession
      | some fetch => exact hcompleted fetch _
  | fail index =>
      rw [play, failAt?]
      cases simulation.pending[index]? with
      | none => exact hsession
      | some fetch =>
          refine coherent_send ?_
          cases fetch with
          | runs => exact hsession
          | data run request =>
              exact Session.coherent_onFetchFailed hsession simulation.clock run request
  | advance time => exact hsession
  | add addition =>
      exact fun run hactive => (hsession hactive).of_extends (Archive.extends_add hkeeps run)
  | setOffline offline => exact hsession

theorem coherent_playAll (hcoherent : simulation.Coherent) {moves : List Move}
    (hfair : ∀ move ∈ moves, move.IsFair) (honly : simulation.OnlyAdds moves) :
    (simulation.playAll moves).Coherent := by
  induction moves generalizing simulation with
  | nil => exact hcoherent
  | cons move rest ih =>
      rw [List.forall_mem_cons] at hfair
      exact ih (coherent_play hcoherent hfair.1 honly.1) hfair.2 honly.2

/-- Whatever the schedule, everything that the session holds of its active run is what
the archive has recorded of it in the same place. -/
theorem everything_held_is_recorded (config : Config) (valid : config.Valid)
    (additions : List Addition) (moves : List Move) (hfair : ∀ move ∈ moves, move.IsFair)
    (honly : (opening config valid additions).OnlyAdds moves) :
    let simulation := (opening config valid additions).playAll moves
    ∀ run, simulation.session.activeRun = some run →
      simulation.session.scope.Coherent (simulation.source.recordingOf run) := by
  intro simulation run hactive
  have hcoherent : simulation.Coherent :=
    coherent_playAll (coherent_opening config valid additions) hfair honly
  exact hcoherent.session hactive

/-- An execution and a frame are recorded while the length of the sequence is being
fetched.  The page that is asked for then shows the new execution as well. -/
theorem everything_held_is_recorded_after_growth :
    let simulation := (opening {} (by decide)
      [.run "a" 1, .execution "a" (Sample.execution "Op0" [])]).playAll
      [.send (.activeRunChanged (some "a")), .add (.execution "a" (Sample.execution "Op1" ["f"])),
        .add (.frame "a" "f" (Sample.frame "main.py" 1 "main")), .deliver 0, .deliver 3]
    simulation.session.activeRun = some "a" ∧
      simulation.session.scope.executions.digests.items[1]? =
        some (Sample.execution "Op1" ["f"]).digest ∧
      simulation.session.scope.Coherent (simulation.source.recordingOf "a") := by
  intro simulation
  have hheld : simulation.session.activeRun = some "a" ∧
      simulation.session.scope.executions.digests.items[1]? =
        some (Sample.execution "Op1" ["f"]).digest := by
    decide +kernel
  refine ⟨hheld.1, hheld.2, everything_held_is_recorded {} (by decide)
    [.run "a" 1, .execution "a" (Sample.execution "Op0" [])]
    [.send (.activeRunChanged (some "a")), .add (.execution "a" (Sample.execution "Op1" ["f"])),
      .add (.frame "a" "f" (Sample.frame "main.py" 1 "main")), .deliver 0, .deliver 3] ?_ ?_
    "a" hheld.1⟩
  · simp [Move.IsFair, Event.isUser]
  · refine ⟨trivial, trivial, ?_, trivial, trivial, trivial⟩
    change "f" ∉ _
    decide +kernel

end Simulation

end TraceViewer
