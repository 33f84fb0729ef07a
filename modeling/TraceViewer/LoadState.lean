/-!
# Load states

Where a piece of remote data is in its loading cycle, and when it was last
loaded.  Data may go back from loaded to loading: totals and pages are fetched
again while the observed program runs.
-/

namespace TraceViewer

/-- The stages of a loading cycle. -/
inductive LoadPhase where
  | notLoaded
  | loading
  | loaded
  | failed
deriving Repr, DecidableEq, Inhabited

/-- A stage together with the time of the last success, in milliseconds. -/
structure LoadState where
  phase : LoadPhase := .notLoaded
  lastLoaded : Option Nat := none
deriving Repr, DecidableEq, Inhabited

namespace LoadState

/-- Loading starts; the time of the last success stays. -/
def start (state : LoadState) : LoadState := { state with phase := .loading }

/-- Loading succeeds at time `now`. -/
def finish (_state : LoadState) (now : Nat) : LoadState :=
  { phase := .loaded, lastLoaded := some now }

/-- Loading fails; the time of the last success stays. -/
def fail (state : LoadState) : LoadState := { state with phase := .failed }

/-- Whether loading is under way. -/
def isLoading (state : LoadState) : Bool := state.phase = .loading

/-- Whether the last attempt succeeded and no other has started. -/
def isLoaded (state : LoadState) : Bool := state.phase = .loaded

end LoadState

end TraceViewer
