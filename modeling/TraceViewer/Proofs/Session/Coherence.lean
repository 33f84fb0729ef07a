import TraceViewer.Proofs.Session.Holdings
import TraceViewer.Proofs.Simulation.Schedule

/-!
# Coherence of a scope with a recording

The scope of a run is *coherent* with the recording of the run when everything it holds
is what the recording has in the same place (`RunScope.Coherent`).  It need not hold all
of it.

Coherence outlives every operation that brings nothing, because it speaks only of what
is held (`Coherent.of_keeps`), and every growth of the recording that replaces nothing
(`Coherent.of_extends`).
-/

namespace TraceViewer

/-! ## Recordings that grow -/

namespace Recording

/-- A recording that has everything that another has, in the same places. -/
structure Extends (old new : Recording) : Prop where
  executions : ∀ {index : Nat} {execution : Execution},
    old.executions[index]? = some execution → new.executions[index]? = some execution
  graphExecutions : ∀ {index : Nat} {execution : GraphExecution},
    old.graphExecutions[index]? = some execution → new.graphExecutions[index]? = some execution
  frames : ∀ {id : FrameId} {frame : StackFrame},
    old.frames[id]? = some frame → new.frames[id]? = some frame
  ops : ∀ {key : GraphOpKey} {op : GraphOp}, old.op? key = some op → new.op? key = some op
  files : ∀ {file : SourceFile} {lines : List String},
    old.sourceFiles[file]? = some lines → new.sourceFiles[file]? = some lines
  alerts : ∀ {alertType : AlertType} {ordinal : Nat} {alert : Alert},
    (old.alertsOfType alertType)[ordinal]? = some alert →
      (new.alertsOfType alertType)[ordinal]? = some alert
  total_le : ∀ kind, old.total kind ≤ new.total kind

theorem extends_self (recording : Recording) : recording.Extends recording :=
  ⟨id, id, id, id, id, id, fun _ => Nat.le_refl _⟩

end Recording

/-! ## Coherence -/

/-- A timeline holds only what is true of its source. -/
def Timeline.Shows {α : Type} (timeline : Timeline α) (truth : Nat → Option α) : Prop :=
  ∀ ⦃index : Nat⦄ ⦃item : α⦄, timeline.items[index]? = some item → truth index = some item

/-- Everything that a scope holds is what the recording has in the same place. -/
structure RunScope.Coherent (recording : Recording) (scope : RunScope) : Prop where
  digests : scope.executions.digests.Shows fun index =>
    recording.executions[index]?.map Execution.digest
  graphExecutions : scope.graphExecutions.Shows fun index => recording.graphExecutions[index]?
  records : ∀ ⦃index : Nat⦄ ⦃record : Execution⦄,
    scope.executions.records[index]? = some record → recording.executions[index]? = some record
  frames : ∀ ⦃id : FrameId⦄ ⦃frame : StackFrame⦄,
    scope.frames[id]? = some frame → recording.frames[id]? = some frame
  ops : ∀ ⦃key : GraphOpKey⦄ ⦃op : GraphOp⦄,
    scope.ops.op? key = some op → recording.op? key = some op
  /-- The lines of a listed file, once loaded. -/
  lines : ∀ ⦃index : Nat⦄ ⦃file : SourceFile⦄ ⦃content : FileContent⦄ ⦃lines : List String⦄,
    scope.sources.files[index]? = some file → scope.sources.contents[index]? = some content →
      content.lines = some lines → recording.sourceFiles[file]? = some lines
  /-- The alerts of a kind, by ordinal. -/
  alerts : ∀ ⦃alertType : AlertType⦄ ⦃shelf : AlertShelf⦄ ⦃ordinal : Nat⦄ ⦃alert : Alert⦄,
    scope.alerts.shelves[alertType]? = some shelf → shelf.alerts[ordinal]? = some alert →
      (recording.alertsOfType alertType)[ordinal]? = some alert
  numItems_le : ∀ kind, scope.numItems kind ≤ recording.total kind

namespace RunScope

variable {recording : Recording} {scope after : RunScope}

theorem coherent_fresh (config : Config) (valid : config.Valid) (recording : Recording) :
    (fresh config valid).Coherent recording where
  digests := by simp [Timeline.Shows, fresh, ExecutionTimeline.fresh, Timeline.fresh,
    Timeline.items, PagedView.fresh, PagedSequence.ofPageSize]
  graphExecutions := by simp [Timeline.Shows, fresh, Timeline.fresh, Timeline.items,
    PagedView.fresh, PagedSequence.ofPageSize]
  records := by simp [fresh, ExecutionTimeline.fresh]
  frames := by simp [fresh]
  ops := by simp [fresh, OpStore.op?]
  lines := by simp [fresh]
  alerts := by simp [fresh]
  numItems_le := by
    intro kind
    cases kind <;> exact Nat.zero_le _

theorem Coherent.of_keeps (hcoherent : scope.Coherent recording) (hkeeps : scope.Keeps after) :
    after.Coherent recording where
  digests := by
    unfold Timeline.Shows
    rw [hkeeps.digests.items_eq]
    exact hcoherent.digests
  graphExecutions := by
    unfold Timeline.Shows
    rw [hkeeps.graphExecutions.items_eq]
    exact hcoherent.graphExecutions
  records := by
    rw [hkeeps.records_eq]
    exact hcoherent.records
  frames := by
    rw [hkeeps.frames_eq]
    exact hcoherent.frames
  ops := by
    unfold OpStore.op?
    rw [hkeeps.graphs_eq]
    exact hcoherent.ops
  lines := by
    intro index file content lines hfile hcontent hlines
    rw [hkeeps.files_eq] at hfile
    -- phases may differ, but what was loaded of a file is the same
    have hsame : (after.sources.contents.map FileContent.lines)[index]? = some (some lines) := by
      rw [List.getElem?_map, hcontent, Option.map_some, hlines]
    rw [hkeeps.lines_eq, List.getElem?_map, Option.map_eq_some_iff] at hsame
    obtain ⟨old, hold, hsame⟩ := hsame
    exact hcoherent.lines hfile hold hsame
  alerts := by
    rw [hkeeps.shelves_eq]
    exact hcoherent.alerts
  numItems_le := by
    intro kind
    cases kind with
    | executions =>
        exact Nat.le_trans (Nat.le_of_eq hkeeps.digests.numItems_eq)
          (hcoherent.numItems_le .executions)
    | graphExecutions =>
        exact Nat.le_trans (Nat.le_of_eq hkeeps.graphExecutions.numItems_eq)
          (hcoherent.numItems_le .graphExecutions)

theorem Coherent.of_extends {more : Recording} (hcoherent : scope.Coherent recording)
    (hextends : recording.Extends more) : scope.Coherent more where
  digests := by
    intro index digest hdigest
    obtain ⟨execution, hexecution, rfl⟩ :=
      Option.map_eq_some_iff.mp (hcoherent.digests hdigest)
    dsimp only
    rw [hextends.executions hexecution, Option.map_some]
  graphExecutions := fun _ _ hitem => hextends.graphExecutions (hcoherent.graphExecutions hitem)
  records := fun _ _ hrecord => hextends.executions (hcoherent.records hrecord)
  frames := fun _ _ hframe => hextends.frames (hcoherent.frames hframe)
  ops := fun _ _ hop => hextends.ops (hcoherent.ops hop)
  lines := fun _ _ _ _ hfile hcontent hlines =>
    hextends.files (hcoherent.lines hfile hcontent hlines)
  alerts := fun _ _ _ _ hshelf halert => hextends.alerts (hcoherent.alerts hshelf halert)
  numItems_le := fun kind => Nat.le_trans (hcoherent.numItems_le kind) (hextends.total_le kind)

end RunScope

end TraceViewer
