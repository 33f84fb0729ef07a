import TraceViewer.Archive
import TraceViewer.Proofs.Simulation.Queue

/-!
# Schedules

A schedule is a list of moves.  A move sends an event, delivers or fails a pending
fetch, lets time pass, or changes the archive behind the session: it records more, or
takes the archive offline and back.  `Simulation.playAll` carries a schedule out.

An archive is filled through its methods only.  Every one of them changes the
recording of one run (`recordingOf_add`), and none of them takes anything back from
the sequences of a run (`total_change`).
-/

namespace TraceViewer

/-! ## Filling an archive -/

/-- Something that is recorded. -/
inductive Addition where
  | run (run : RunId) (startTime : Float)
  | execution (run : RunId) (execution : Execution)
  | graphExecution (run : RunId) (execution : GraphExecution)
  | frame (run : RunId) (id : FrameId) (frame : StackFrame)
  | op (run : RunId) (op : GraphOp)
  | file (run : RunId) (file : SourceFile) (lines : List String)
  | alert (run : RunId) (alert : Alert)

/-- What an addition does to the recording of its run. -/
def Addition.change : Addition → Recording → Recording
  | .run _ startTime => fun recording => { recording with metadata := some { startTime } }
  | .execution _ record => (·.pushExecution record)
  | .graphExecution _ record => (·.pushGraphExecution record)
  | .frame _ id line => (·.insertFrame id line)
  | .op _ record => (·.insertOp record)
  | .file _ name lines => (·.insertFile name lines)
  | .alert _ record => (·.pushAlert record)

/-- The run that an addition is about. -/
def Addition.about : Addition → RunId
  | .run id _ => id
  | .execution id _ => id
  | .graphExecution id _ => id
  | .frame id _ _ => id
  | .op id _ => id
  | .file id _ _ => id
  | .alert id _ => id

namespace Archive

/-- Record something, by the method for it. -/
def add (archive : Archive) : Addition → Archive
  | .run run startTime => archive.addRun run startTime
  | .execution run execution => archive.modifyRun run (·.pushExecution execution)
  | .graphExecution run execution => archive.modifyRun run (·.pushGraphExecution execution)
  | .frame run id frame => archive.modifyRun run (·.insertFrame id frame)
  | .op run op => archive.modifyRun run (·.insertOp op)
  | .file run file lines => archive.modifyRun run (·.insertFile file lines)
  | .alert run alert => archive.modifyRun run (·.pushAlert alert)

/-- The archive that holds what was added one after the other. -/
def ofAdditions (additions : List Addition) : Archive := additions.foldl add {}

/-- The recording of a run, empty when there is no such run. -/
def recordingOf (archive : Archive) (run : RunId) : Recording := archive.runs[run]?.getD {}

theorem recordingOf_modifyRun (archive : Archive) (changed run : RunId)
    (change : Recording → Recording) :
    (archive.modifyRun changed change).recordingOf run = archive.recordingOf run ∨
      changed = run ∧
        (archive.modifyRun changed change).recordingOf run = change (archive.recordingOf run) := by
  rw [modifyRun]
  cases hrun : archive.runs[changed]? with
  | none => exact Or.inl rfl
  | some recording =>
      by_cases heq : changed = run
      · subst heq
        exact Or.inr ⟨rfl, by simp [recordingOf, hrun]⟩
      · exact Or.inl (by simp [recordingOf, Std.ExtTreeMap.getElem?_insert, heq])

/-- An addition changes the recording of its run, if there is such a run, and no other. -/
theorem recordingOf_add (archive : Archive) (addition : Addition) (run : RunId) :
    (archive.add addition).recordingOf run = archive.recordingOf run ∨
      addition.about = run ∧
        (archive.add addition).recordingOf run = addition.change (archive.recordingOf run) := by
  cases addition with
  | run added startTime =>
      -- a run that is added again keeps what is recorded of it
      by_cases heq : added = run
      · subst heq
        exact Or.inr ⟨rfl, by simp [recordingOf, add, addRun, Addition.change]⟩
      · exact Or.inl (by simp [recordingOf, add, addRun, Std.ExtTreeMap.getElem?_insert, heq])
  | execution => exact recordingOf_modifyRun ..
  | graphExecution => exact recordingOf_modifyRun ..
  | frame => exact recordingOf_modifyRun ..
  | op => exact recordingOf_modifyRun ..
  | file => exact recordingOf_modifyRun ..
  | alert => exact recordingOf_modifyRun ..

end Archive

/-! ## Recordings -/

namespace Recording

/-- The length of a sequence. -/
def total (recording : Recording) : SequenceKind → Nat
  | .executions => recording.executions.length
  | .graphExecutions => recording.graphExecutions.length

/-- Every op is kept under its own graph and name, and without embedded neighbours. -/
def Keyed (recording : Recording) : Prop :=
  ∀ ⦃key : GraphOpKey⦄ ⦃op : GraphOp⦄, recording.op? key = some op →
    op.graphId? = some key.graphId ∧ op.opName = key.opName ∧ op.stripped = op

theorem keyed_empty : ({} : Recording).Keyed := by
  intro key op hop
  simp [op?] at hop

/-- What is found under a key after an op was recorded. -/
theorem op?_insertOp (recording : Recording) (op : GraphOp) (key : GraphOpKey) :
    (recording.insertOp op).op? key =
      if op.graphId? = some key.graphId ∧ op.opName = key.opName then some op.stripped
      else recording.op? key := by
  rw [insertOp]
  cases hgraph : op.graphId? with
  | none => simp
  | some graphId =>
      by_cases hsame : graphId = key.graphId
      · subst hsame
        -- the graph is there with other ops in it, or it is new
        by_cases hname : op.opName = key.opName
        · simp [op?, hname]
        · cases hold : recording.graphOps[key.graphId]? <;>
            simp [op?, hname, hold, Std.ExtTreeMap.getElem?_insert]
      · simp [op?, hsame, Std.ExtTreeMap.getElem?_insert]

theorem stripped_embed (op : GraphOp) (lookup : String → Option GraphOp) :
    (op.embed lookup).stripped = op.stripped := by
  simp [GraphOp.stripped, GraphOp.embed, Function.comp_def]

theorem keyed_change {recording : Recording} (hkeyed : recording.Keyed) (addition : Addition) :
    (addition.change recording).Keyed := by
  intro key op hop
  cases addition with
  | op run added =>
      change (recording.insertOp added).op? key = some op at hop
      rw [op?_insertOp] at hop
      split_ifs at hop with hkey
      · cases hop
        -- the op that is added is filed under its own key, without its neighbours' data
        exact ⟨hkey.1, hkey.2, stripped_embed added _⟩
      · exact hkeyed hop
  | run => exact hkeyed hop
  | execution => exact hkeyed hop
  | graphExecution => exact hkeyed hop
  | frame => exact hkeyed hop
  | file => exact hkeyed hop
  | alert => exact hkeyed hop

theorem total_change (recording : Recording) (addition : Addition) (kind : SequenceKind) :
    recording.total kind ≤ (addition.change recording).total kind := by
  cases addition <;> cases kind <;>
    simp [Addition.change, total, pushExecution, pushGraphExecution, insertFrame, insertFile,
      pushAlert, insertOp] <;> split <;> simp

end Recording

namespace Archive

theorem keyed_add {archive : Archive} (hkeyed : ∀ run, (archive.recordingOf run).Keyed)
    (addition : Addition) (run : RunId) : ((archive.add addition).recordingOf run).Keyed := by
  rcases archive.recordingOf_add addition run with hsame | ⟨_, hchanged⟩
  · rw [hsame]
    exact hkeyed run
  · rw [hchanged]
    exact Recording.keyed_change (hkeyed run) addition

theorem keyed_ofAdditions (additions : List Addition) (run : RunId) :
    ((ofAdditions additions).recordingOf run).Keyed := by
  have hfold : ∀ archive : Archive, (∀ run, (archive.recordingOf run).Keyed) →
      ∀ run, ((additions.foldl add archive).recordingOf run).Keyed := by
    induction additions with
    | nil => exact fun _ hkeyed => hkeyed
    | cons addition rest ih => exact fun archive hkeyed => ih _ (keyed_add hkeyed addition)
  refine hfold {} ?_ run
  intro run
  simpa [recordingOf] using Recording.keyed_empty

theorem total_add (archive : Archive) (addition : Addition) (run : RunId)
    (kind : SequenceKind) :
    (archive.recordingOf run).total kind ≤ ((archive.add addition).recordingOf run).total kind := by
  rcases archive.recordingOf_add addition run with hsame | ⟨_, hchanged⟩
  · exact Nat.le_of_eq (by rw [hsame])
  · rw [hchanged]
    exact Recording.total_change _ addition kind

/-- Recording takes an archive neither offline nor back. -/
theorem offline_add (archive : Archive) (addition : Addition) :
    (archive.add addition).offline = archive.offline := by
  have hmodify : ∀ (run : RunId) (change : Recording → Recording),
      (archive.modifyRun run change).offline = archive.offline := by
    intro run change
    rw [modifyRun]
    cases archive.runs[run]? <;> rfl
  cases addition with
  | run run startTime => rfl
  | _ => exact hmodify _ _

theorem offline_ofAdditions (additions : List Addition) :
    (ofAdditions additions).offline = false := by
  have hfold : ∀ archive : Archive, archive.offline = false →
      (additions.foldl add archive).offline = false := by
    induction additions with
    | nil => exact fun _ honline => honline
    | cons addition rest ih =>
        exact fun archive honline => ih _ ((archive.offline_add addition).trans honline)
  exact hfold {} rfl

/-- Whether an addition leaves what is recorded already as it is. -/
def Keeps (archive : Archive) : Addition → Prop
  | .frame run id _ => id ∉ (archive.recordingOf run).frames
  | .op run op => ∀ graphId, op.graphId? = some graphId →
      (archive.recordingOf run).op? { graphId, opName := op.opName } = none
  | .file run file _ => file ∉ (archive.recordingOf run).sourceFiles
  | .run _ _ | .execution _ _ | .graphExecution _ _ | .alert _ _ => True

end Archive

/-! ## Moves -/

/-- Whether an event comes from the user or the application, and not from a fetch. -/
def Event.isUser : Event → Bool
  | .runsLoaded _ | .runsFailed | .loaded _ _ | .fetchFailed _ _ => false
  | _ => true

/-- One move of a schedule. -/
inductive Move where
  | send (event : Event)
  /-- The pending fetch at a place is answered. -/
  | deliver (index : Nat)
  /-- The pending fetch at a place is answered and stays pending. -/
  | duplicate (index : Nat)
  /-- The pending fetch at a place fails. -/
  | fail (index : Nat)
  | advance (time : Nat)
  /-- The observed program records more. -/
  | add (addition : Addition)
  /-- The archive goes offline or comes back. -/
  | setOffline (offline : Bool)

/-- Whether a move sends no outcome of a fetch that was not made. -/
def Move.IsFair : Move → Prop
  | .send event => event.isUser = true
  | _ => True

namespace Simulation

/-- Carry out a move.  Nothing happens when no fetch is pending at its place. -/
def play (simulation : Simulation Archive) : Move → Simulation Archive
  | .send event => simulation.send event
  | .deliver index => (simulation.deliverAt? index).getD simulation
  | .duplicate index => (simulation.duplicateAt? index).getD simulation
  | .fail index => (simulation.failAt? index).getD simulation
  | .advance time => simulation.advance time
  | .add addition => { simulation with source := simulation.source.add addition }
  | .setOffline offline => { simulation with source := { simulation.source with offline } }

/-- Carry out moves, one after the other. -/
def playAll (simulation : Simulation Archive) (moves : List Move) : Simulation Archive :=
  moves.foldl play simulation

/-- A session that knows nothing, in front of an archive filled with `additions`. -/
def opening (config : Config) (valid : config.Valid) (additions : List Addition) :
    Simulation Archive :=
  start (.fresh config valid) (.ofAdditions additions)

/-- Taking a fetch out of the queue leaves the other fetches in it. -/
theorem mem_dequeue {Source : Type} {simulation : Simulation Source} {index : Nat}
    {fetch other : PendingFetch} (hfetch : simulation.pending[index]? = some fetch)
    (hother : other ∈ simulation.pending) (hne : other ≠ fetch) :
    other ∈ (simulation.dequeue index).pending := by
  rw [dequeue, List.mem_eraseIdx_iff_getElem?]
  obtain ⟨place, hplace⟩ := List.mem_iff_getElem?.mp hother
  refine ⟨place, ?_, hplace⟩
  rintro rfl
  rw [hfetch, Option.some.injEq] at hplace
  exact hne hplace.symm

/-! ## Moves that answer a fetch -/

/-- What the delivery or the failure of a pending fetch leads to.  The fetch leaves the
queue or stays in it, and so `rest` may be all that was pending. -/
inductive Answered (simulation : Simulation Archive) : Simulation Archive → Prop where
  /-- No fetch is pending at the place. -/
  | idle : Answered simulation simulation
  | outcome {fetch : PendingFetch} {rest : List PendingFetch} (entry : LogRecord)
      (pending : fetch ∈ simulation.pending) (sub : rest ⊆ simulation.pending)
      (others : ∀ other ∈ simulation.pending, other ≠ fetch → other ∈ rest) :
      Answered simulation (({ simulation with pending := rest }.record entry).send
        (outcomeOf simulation.source fetch))
  | failure {fetch : PendingFetch} {rest : List PendingFetch} (entry : LogRecord)
      (pending : fetch ∈ simulation.pending) (sub : rest ⊆ simulation.pending)
      (others : ∀ other ∈ simulation.pending, other ≠ fetch → other ∈ rest) :
      Answered simulation (({ simulation with pending := rest }.record entry).send
        (failureOf fetch))

theorem answered_deliver (simulation : Simulation Archive) (index : Nat) :
    simulation.Answered (simulation.play (.deliver index)) := by
  rw [play, deliverAt?]
  cases hfetch : simulation.pending[index]? with
  | none => exact .idle
  | some fetch =>
      exact .outcome (.delivered fetch) (List.mem_of_getElem? hfetch) (List.eraseIdx_subset ..)
        fun other hother hne => mem_dequeue hfetch hother hne

theorem answered_duplicate (simulation : Simulation Archive) (index : Nat) :
    simulation.Answered (simulation.play (.duplicate index)) := by
  rw [play, duplicateAt?]
  cases hfetch : simulation.pending[index]? with
  | none => exact .idle
  | some fetch =>
      exact .outcome (.delivered fetch) (List.mem_of_getElem? hfetch) (List.Subset.refl _)
        fun other hother _ => hother

theorem answered_fail (simulation : Simulation Archive) (index : Nat) :
    simulation.Answered (simulation.play (.fail index)) := by
  rw [play, failAt?]
  cases hfetch : simulation.pending[index]? with
  | none => exact .idle
  | some fetch =>
      exact .failure (.failed fetch) (List.mem_of_getElem? hfetch) (List.eraseIdx_subset ..)
        fun other hother hne => mem_dequeue hfetch hother hne

end Simulation

end TraceViewer
