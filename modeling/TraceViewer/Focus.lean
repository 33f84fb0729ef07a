import TraceViewer.GraphOp

/-!
# Code-location focus

The stack-trace panel follows either the focused top-level execution or the op
that has focus in a graph.
-/

namespace TraceViewer

/-- The kind of code location that is followed. -/
inductive CodeLocation where
  /-- The call stack of a top-level execution. -/
  | execution
  /-- The call stack that created a graph op. -/
  | graphOpCreation
deriving Repr, DecidableEq, Inhabited

/-- The item whose call stack is the current stack trace. -/
inductive FocusOrigin where
  | execution (index : Nat)
  | graphOpCreation (key : GraphOpKey)
deriving Repr, DecidableEq

/-- The kind of code location that an origin has. -/
def FocusOrigin.location : FocusOrigin → CodeLocation
  | .execution _ => .execution
  | .graphOpCreation _ => .graphOpCreation

end TraceViewer
