import TraceViewer.Fetch

/-!
# Tracing the inputs of a graph execution

The inputs of an executed op were computed earlier in the same graph.  For each
input the nearest earlier execution is looked up that belongs to the same graph and
has the input's op name and output slot.  The search goes back at most `maxLookBack`
indices and skips what is not held.
-/

namespace TraceViewer.InputTrace

/-- Whether an execution computed what an input reads. -/
def matchesInput (execution : GraphExecution) (input : OpInput GraphOp) : Bool :=
  execution.opName = input.opName ∧ execution.outputSlot = input.outputSlot

/-- Walk back over executions and take up the index of each that some open input
matches, once for each such input.  An input is closed by its first match, and the
walk ends when none is open. -/
def walk (graphId : String) (inputs : List (OpInput GraphOp)) :
    List (Nat × GraphExecution) → List Nat
  | [] => []
  | (index, execution) :: earlier =>
    if inputs.isEmpty then []
    else if execution.graphId = graphId then
      let matched := inputs.filter (matchesInput execution)
      let unmatched := inputs.filter (!matchesInput execution ·)
      matched.map (fun _ => index) ++ walk graphId unmatched earlier
    else walk graphId inputs earlier

/-- The executions that computed the inputs of the focused execution, the nearest
first.  There is no answer without a focus, without an op whose inputs are wanted,
or when the focused execution is not held. -/
def indices (focus : Option Nat) (executions : PagedSequence GraphExecution)
    (inputs : Option (List (OpInput GraphOp))) (maxLookBack : Nat) : Option (List Nat) := do
  let focus ← focus
  let inputs ← inputs
  let focused ← executions.items[focus]?
  return walk focused.graphId inputs (executions.backwards ⟨focus - maxLookBack, focus⟩)

end TraceViewer.InputTrace
