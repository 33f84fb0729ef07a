import TraceViewer.DataSource
import TraceViewer.Session.Basic

/-!
# Simulations

A simulation runs a session against a data source without any transport.  What the
session wants to fetch is queued, and the schedule decides when each fetch is
delivered: in order, out of order, more than once, or never.  The source is asked
only when a fetch is delivered.

A simulation keeps a log of what happened and the errors of the events that the
session refused.
-/

namespace TraceViewer

/-- A fetch that has not been answered. -/
inductive PendingFetch where
  | runs
  | data (run : RunId) (request : Request)
deriving Repr, DecidableEq

/-- The name under which a pending fetch is looked for. -/
def PendingFetch.name : PendingFetch → String
  | .runs => "Runs"
  | .data _ request => request.name

/-- One entry of the log. -/
inductive LogRecord where
  /-- A transition wanted nothing. -/
  | none
  /-- A transition wanted several things. -/
  | batch (count : Nat)
  /-- A fetch was queued. -/
  | queued (fetch : PendingFetch)
  /-- A fetch was answered, and the answer is given to the session next. -/
  | delivered (fetch : PendingFetch)
  /-- A fetch failed, and the failure is given to the session next. -/
  | failed (fetch : PendingFetch)
  /-- The session refused an event. -/
  | rejected (event : String) (error : String)
deriving Repr, DecidableEq

/-- A session, the source it is run against, and what is under way between them. -/
structure Simulation (Source : Type) where
  session : Session
  source : Source
  /-- The fetches that have not been answered, the oldest first. -/
  pending : List PendingFetch := []
  log : Array LogRecord := #[]
  /-- The errors of the refused events, the oldest first. -/
  errors : Array ViewError := #[]
  /-- The time, in milliseconds. -/
  clock : Nat := 0

namespace Simulation

variable {Source : Type}

/-- A simulation in which nothing has happened. -/
def start (session : Session) (source : Source) : Simulation Source := { session, source }

/-! ## Events -/

/-- Append an entry to the log. -/
def record (simulation : Simulation Source) (entry : LogRecord) : Simulation Source :=
  { simulation with log := simulation.log.push entry }

/-- Queue a fetch. -/
def enqueue (simulation : Simulation Source) (fetch : PendingFetch) : Simulation Source :=
  { simulation.record (.queued fetch) with pending := simulation.pending ++ [fetch] }

mutual

/-- Queue what a command wants. -/
def execute (simulation : Simulation Source) : Command → Simulation Source
  | .none => simulation.record .none
  | .fetchRuns => simulation.enqueue .runs
  | .fetch run request => simulation.enqueue (.data run request)
  | .batch commands => executeAll (simulation.record (.batch commands.length)) commands

/-- Queue what several commands want. -/
def executeAll (simulation : Simulation Source) : List Command → Simulation Source
  | [] => simulation
  | command :: rest => executeAll (simulation.execute command) rest

end

/-- Give an event to the session and queue what it wants because of it. -/
def send (simulation : Simulation Source) (event : Event) : Simulation Source :=
  match simulation.session.apply event simulation.clock with
  | (session, .ok command) => { simulation with session }.execute command
  | (session, .error error) =>
    { simulation.record (.rejected event.name error.message) with
      session, errors := simulation.errors.push error }

/-- Ask for the listing of the runs. -/
def init (simulation : Simulation Source) : Simulation Source := simulation.send .runsRequested

/-- Move the clock on.  It stops at the largest 64-bit number. -/
def advance (simulation : Simulation Source) (time : Nat) : Simulation Source :=
  { simulation with clock := min (simulation.clock + time) (UInt64.size - 1) }

/-! ## Deliveries -/

/-- The event that reports a failed fetch. -/
def failureOf : PendingFetch → Event
  | .runs => .runsFailed
  | .data run request => .fetchFailed run request

/-- The event that reports what the source answers to a fetch. -/
def outcomeOf [DataSource Source] (source : Source) : PendingFetch → Event
  | .runs =>
    match DataSource.listRuns source with
    | .ok runs => .runsLoaded runs
    | .error _ => .runsFailed
  | .data run request =>
    match DataSource.fetch source run request with
    | .ok reply => .loaded run reply
    | .error _ => .fetchFailed run request

/-- Ask the source for the answer to a fetch and give it to the session. -/
def complete [DataSource Source] (simulation : Simulation Source) (fetch : PendingFetch) :
    Simulation Source :=
  (simulation.record (.delivered fetch)).send (outcomeOf simulation.source fetch)

/-- Take a fetch out of the queue. -/
def dequeue (simulation : Simulation Source) (index : Nat) : Simulation Source :=
  { simulation with pending := simulation.pending.eraseIdx index }

/-- Deliver the pending fetch at a place of the queue, if there is one. -/
def deliverAt? [DataSource Source] (simulation : Simulation Source) (index : Nat) :
    Option (Simulation Source) :=
  simulation.pending[index]?.map (simulation.dequeue index).complete

/-- Deliver the pending fetch at a place of the queue, if there is one, and keep it
there to be delivered again. -/
def duplicateAt? [DataSource Source] (simulation : Simulation Source) (index : Nat) :
    Option (Simulation Source) :=
  simulation.pending[index]?.map simulation.complete

/-- Fail the pending fetch at a place of the queue, if there is one, without asking
the source. -/
def failAt? (simulation : Simulation Source) (index : Nat) : Option (Simulation Source) :=
  simulation.pending[index]?.map fun fetch =>
    ((simulation.dequeue index).record (.failed fetch)).send (failureOf fetch)

/-- Deliver the oldest pending fetch, if there is one. -/
def deliverNext? [DataSource Source] (simulation : Simulation Source) :
    Option (Simulation Source) :=
  simulation.deliverAt? 0

/-- Deliver pending fetches, and those that they cause, until none is pending or
`limit` have been delivered.  The result says how many were delivered. -/
def deliverUpTo [DataSource Source] (limit : Nat) (simulation : Simulation Source) :
    Simulation Source × Nat :=
  match limit with
  | 0 => (simulation, 0)
  | limit + 1 =>
    match simulation.deliverNext? with
    | none => (simulation, 0)
    | some next =>
      let (final, delivered) := deliverUpTo limit next
      (final, delivered + 1)

/-- How many fetches are delivered at most by `deliverAll`. -/
def deliveryLimit : Nat := 10000

/-- Deliver pending fetches, and those that they cause, until none is pending. -/
def deliverAll [DataSource Source] (simulation : Simulation Source) : Simulation Source × Nat :=
  deliverUpTo deliveryLimit simulation

/-- A simulation that has listed the runs and loaded what the first run needs. -/
def opened [DataSource Source] (session : Session) (source : Source) : Simulation Source :=
  (start session source).init.deliverAll.1

end Simulation

end TraceViewer
