import TraceViewer.DataSource
import TraceViewer.Session.Basic

/-!
# Direct sessions

A direct session runs every fetch at once.  An event is applied, whatever it wants
is fetched, and the outcomes are applied in turn, until nothing is left to do.

An event that is refused does not stop this, so that nothing stays marked as being
fetched; the first refusal is reported in the end.

The clock is read anew for every event, so the times of the events of one dispatch differ.
Nothing is assumed of them (`Clock`).
-/

namespace TraceViewer

/-- A session bound to a data source. -/
structure DirectSession (Source : Type) where
  session : Session
  source : Source
  /-- Why the runs could not be listed the last time. -/
  listingError : Option TransportError := none

/-- What the clock shows at each reading during a dispatch.  It may stand still, and it may
be set back. -/
structure Clock where
  read : Nat → Nat

/-- A time stands for the clock that always shows it. -/
instance : Coe Nat Clock := ⟨fun now => ⟨fun _ => now⟩⟩

/-- What the dispatch of one event did. -/
structure DispatchReport where
  /-- How many events were applied, outcomes of fetches included. -/
  events : Nat := 0
  /-- How many fetches were run. -/
  fetches : Nat := 0
  /-- How many of them failed. -/
  failedFetches : Nat := 0
deriving Repr, DecidableEq

namespace DirectSession

variable {Source : Type}

/-- A session that knows nothing, bound to a source. -/
def ofConfig (config : Config) (source : Source) :
    Except SessionError (DirectSession Source) :=
  match Session.ofConfig config with
  | .error error => .error (.view error)
  | .ok session => .ok { session, source }

/-- A dispatch under way. -/
structure Dispatch (Source : Type) where
  direct : DirectSession Source
  /-- The events still to be applied, the next one first. -/
  queue : List Event
  report : DispatchReport := {}
  /-- The first refusal. -/
  firstError : Option ViewError := none

namespace Dispatch

/-- Count a fetch and queue its outcome. -/
def fetched (dispatch : Dispatch Source) (outcome : Event) (failed : Bool) : Dispatch Source :=
  { dispatch with
    queue := dispatch.queue ++ [outcome]
    report :=
      { dispatch.report with
        fetches := dispatch.report.fetches + 1
        failedFetches := dispatch.report.failedFetches + if failed then 1 else 0 } }

/-- Remember whether the runs could be listed. -/
def listed (dispatch : Dispatch Source) (error : Option TransportError) : Dispatch Source :=
  { dispatch with direct := { dispatch.direct with listingError := error } }

mutual

/-- Run the fetches of a command. -/
def execute [DataSource Source] (dispatch : Dispatch Source) : Command → Dispatch Source
  | .none => dispatch
  | .fetchRuns =>
    match DataSource.listRuns dispatch.direct.source with
    | .ok runs => (dispatch.listed none).fetched (.runsLoaded runs) false
    | .error error => (dispatch.listed (some error)).fetched .runsFailed true
  | .fetch run request =>
    match DataSource.fetch dispatch.direct.source run request with
    | .ok reply => dispatch.fetched (.loaded run reply) false
    | .error _ => dispatch.fetched (.fetchFailed run request) true
  | .batch commands => executeAll dispatch commands

/-- Run the fetches of several commands. -/
def executeAll [DataSource Source] (dispatch : Dispatch Source) :
    List Command → Dispatch Source
  | [] => dispatch
  | command :: rest => executeAll (dispatch.execute command) rest

end

/-- Apply one event at time `now`, which is no longer in the queue, and run the fetches
that it wants. -/
def step [DataSource Source] (dispatch : Dispatch Source) (event : Event) (now : Nat) :
    Dispatch Source :=
  let (session, result) := dispatch.direct.session.apply event now
  let applied :=
    { dispatch with
      direct := { dispatch.direct with session }
      report := { dispatch.report with events := dispatch.report.events + 1 } }
  match result with
  | .ok command => applied.execute command
  | .error error => { applied with firstError := applied.firstError <|> some error }

/-- Apply the queued events, and those that they cause, at most `limit` of them.  The
clock is read once for each. -/
def drain [DataSource Source] (clock : Clock) : Nat → Dispatch Source → Dispatch Source
  | 0, dispatch => dispatch
  | limit + 1, dispatch =>
    match dispatch.queue with
    | [] => dispatch
    | event :: rest =>
      let now := clock.read dispatch.report.events
      drain clock limit ({ dispatch with queue := rest }.step event now)

end Dispatch

/-- How many events one dispatch applies at most. -/
def eventLimit : Nat := 10000

/-- Apply an event, and every outcome that it leads to. -/
def dispatch [DataSource Source] (direct : DirectSession Source) (event : Event)
    (clock : Clock) : DirectSession Source × Except SessionError DispatchReport :=
  let final := Dispatch.drain clock eventLimit { direct, queue := [event] }
  (final.direct,
    match final.firstError with
    | some error => .error (.view error)
    | none => .ok final.report)

/-- List the runs and load the first one.  A listing that fails is reported once, and
may be tried again. -/
def openFirstRun [DataSource Source] (direct : DirectSession Source) (clock : Clock) :
    DirectSession Source × Except SessionError DispatchReport :=
  match direct.dispatch .runsRequested clock with
  | (dispatched, .error error) => (dispatched, .error error)
  | (dispatched, .ok report) =>
    match dispatched.listingError with
    | none => (dispatched, .ok report)
    | some error => ({ dispatched with listingError := none }, .error (.transport error))

/-- Ask again for everything that grows while the observed program runs. -/
def poll [DataSource Source] (direct : DirectSession Source) (clock : Clock) :
    DirectSession Source × Except SessionError DispatchReport :=
  direct.dispatch .pollStarted clock

end DirectSession

end TraceViewer
