import TraceViewer.Error
import TraceViewer.Fetch

/-!
# The op store

Graph ops are kept under the innermost graph around them.  When an op arrives, the
ops embedded in its edges are kept with it, each without what it embeds itself; the
arriving op wins over a neighbour of the same name.

For every op that was asked for, the store also remembers how far loading it has
come.
-/

namespace TraceViewer

/-- The ops of one graph, by name. -/
abbrev OpTable := Std.ExtTreeMap String GraphOp

/-- The graph ops of a session. -/
structure OpStore where
  /-- The ops held, by graph. -/
  graphs : Std.ExtTreeMap String OpTable := ∅
  /-- How far loading has come for the ops that were asked for, by graph. -/
  phases : Std.ExtTreeMap String (Std.ExtTreeMap String LoadPhase) := ∅
  /-- The op in focus. -/
  focused : Option GraphOpKey := none

namespace OpStore

/-! ## Looking at the store -/

/-- The op under a key, when it is held. -/
def op? (store : OpStore) (key : GraphOpKey) : Option GraphOp :=
  store.graphs[key.graphId]?.bind fun graph => graph[key.opName]?

/-- The loading stage remembered for a key, if any. -/
def phase? (store : OpStore) (key : GraphOpKey) : Option LoadPhase :=
  store.phases[key.graphId]?.bind fun graph => graph[key.opName]?

/-- How far loading the op under a key has come. -/
def phase (store : OpStore) (key : GraphOpKey) : LoadPhase := (store.phase? key).getD .notLoaded

/-- The focused op, when it is held. -/
def focusedOp (store : OpStore) : Option GraphOp := store.focused.bind store.op?

/-- The focused op with every neighbour embedded that is held in the same graph. -/
def annotatedOp (store : OpStore) : Option GraphOp :=
  store.focused.bind fun key =>
    (store.op? key).map fun op => op.embed fun name => store.op? { key with opName := name }

/-- The inputs of the focused op, each with the op it comes from when that is held. -/
def focusedInputs (store : OpStore) : Option (List (OpInput GraphOp)) :=
  store.annotatedOp.map (·.inputs)

/-- The consumers of the focused op, each with the op it leads to when that is held. -/
def focusedConsumers (store : OpStore) : Option (List (List (OpConsumer GraphOp))) :=
  store.annotatedOp.map (·.consumers)

/-! ## Changes -/

/-- Give the focus to an op. -/
def focus (store : OpStore) (key : GraphOpKey) : OpStore := { store with focused := some key }

/-- Remember how far loading the op under a key has come. -/
def setPhase (store : OpStore) (key : GraphOpKey) (phase : LoadPhase) : OpStore :=
  { store with
    phases := store.phases.insert key.graphId
      ((store.phases[key.graphId]?.getD ∅).insert key.opName phase) }

/-- Correct the stage remembered for a key; an op that was not asked for has none. -/
def updatePhase (store : OpStore) (key : GraphOpKey) (phase : LoadPhase) : OpStore :=
  if (store.phase? key).isSome then store.setPhase key phase else store

/-- Ask for an op, unless it is held or being loaded.  The result says whether it
has to be fetched. -/
def request (store : OpStore) (key : GraphOpKey) : OpStore × Bool :=
  if (store.op? key).isSome ∨ store.phase key = .loading then (store, false)
  else (store.setPhase key .loading, true)

/-- An op could not be fetched. -/
def onFailed (store : OpStore) (key : GraphOpKey) : OpStore := store.updatePhase key .failed

/-- A table with further ops, a later one winning over an earlier one of its name. -/
def insertAll (table : OpTable) (ops : List GraphOp) : OpTable :=
  ops.foldl (fun table op => table.insert op.opName op) table

/-- An op arrived.  It has to name a graph around it. -/
def onLoaded (store : OpStore) (op : GraphOp) : OpStore × Except ViewError Unit :=
  match op.graphId? with
  | none => (store, .error (.invalidArgument (.opOutsideGraphs op.opName)))
  | some graphId =>
    let arrived := op.neighbours.map GraphOp.stripped ++ [op.stripped]
    let table := insertAll (store.graphs[graphId]?.getD ∅) arrived
    let extended := { store with graphs := store.graphs.insert graphId table }
    (extended.updatePhase { graphId, opName := op.opName } .loaded, .ok ())

end OpStore

end TraceViewer
