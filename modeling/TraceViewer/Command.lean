import TraceViewer.Fetch

/-!
# Commands

A transition of a session answers with a command: what has to be fetched because
of it.  Commands are combined without leaving traces of those that ask for
nothing.
-/

namespace TraceViewer

/-- What has to be fetched. -/
inductive Command where
  | none
  /-- The listing of the runs. -/
  | fetchRuns
  /-- Something within a run. -/
  | fetch (run : RunId) (request : Request)
  /-- Several commands, in the order in which they were issued. -/
  | batch (commands : List Command)
deriving Inhabited

namespace Command

/-- The name under which a command is logged. -/
def name : Command → String
  | .none => "None"
  | .fetchRuns => "FetchRuns"
  | .fetch _ _ => "Fetch"
  | .batch _ => "Batch"

/-- Whether a command is the one that asks for nothing. -/
def isNone : Command → Bool
  | .none => true
  | _ => false

/-- Several commands as one: those that ask for nothing are dropped, and a single
command stands for itself. -/
def combine (commands : List Command) : Command :=
  match commands.filter (!·.isNone) with
  | [] => .none
  | [command] => command
  | several => .batch several

mutual

/-- The requests of a command with their runs, in the order of issue. -/
def fetches : Command → List (RunId × Request)
  | .none => []
  | .fetchRuns => []
  | .fetch run request => [(run, request)]
  | .batch commands => fetchesOfAll commands

/-- The requests of several commands. -/
def fetchesOfAll : List Command → List (RunId × Request)
  | [] => []
  | command :: rest => command.fetches ++ fetchesOfAll rest

end

end Command

end TraceViewer
