import TraceViewer.Command
import TraceViewer.PagedView

/-!
# Timelines

A timeline is one of the two paged sequences of a session: a paged view together
with the load states of its total and of its pages.  It turns what the view wants
into commands.

The pages count as loading from the moment one is requested until no page is being
fetched any more.
-/

namespace TraceViewer

/-- A movement of the window. -/
inductive ScrollStep where
  | left
  | right
  | toIndex (index : Nat)
  | recenter (index : Nat)
deriving Repr, DecidableEq

/-- A paged sequence of a session. -/
structure Timeline (α : Type) where
  kind : SequenceKind
  /-- How far loading the total has come. -/
  totalLoad : LoadState
  /-- How far loading the pages has come. -/
  pagesLoad : LoadState
  view : PagedView α

namespace Timeline

variable {α : Type}

/-- The timeline of a sequence of which nothing is known. -/
def fresh (kind : SequenceKind) (geometry : Geometry) (valid : geometry.Valid) : Timeline α where
  kind := kind
  totalLoad := {}
  pagesLoad := {}
  view := .fresh geometry valid

/-! ## Looking at a timeline -/

/-- The number of items that the source reported. -/
def numItems (timeline : Timeline α) : Nat := timeline.view.numItems

/-- The item in focus, by index. -/
def focus (timeline : Timeline α) : Option Nat := timeline.view.window.focus

/-- The items held, by index. -/
def items (timeline : Timeline α) : Std.ExtTreeMap Nat α := timeline.view.sequence.items

/-- Whether no page is being fetched. -/
def isIdle (timeline : Timeline α) : Bool := timeline.view.sequence.isIdle

/-! ## User events -/

/-- Change the focus. -/
def setFocus (timeline : Timeline α) (focus : Option Nat) : Timeline α :=
  { timeline with view := timeline.view.setFocus focus }

/-- The request for the total of a sequence. -/
def totalRequest : SequenceKind → Request
  | .executions => .numExecutions
  | .graphExecutions => .numGraphExecutions

/-- Ask for the total. -/
def requestTotal (timeline : Timeline α) (run : RunId) : Timeline α × Command :=
  ({ timeline with totalLoad := timeline.totalLoad.start },
    .fetch run (totalRequest timeline.kind))

/-- Turn what the view wants into commands. -/
def issue (timeline : Timeline α) (run : RunId) (demand : PageDemand) : Timeline α × Command :=
  if demand.isEmpty then (timeline, .none)
  else
    ({ timeline with pagesLoad := timeline.pagesLoad.start },
      .combine (demand.ranges.map fun range => .fetch run (.page timeline.kind range)))

/-- The view after a movement, and what it wants. -/
def moveView (view : PagedView α) : ScrollStep → PagedView α × Except ViewError PageDemand
  | .left => view.scrollLeft
  | .right => view.scrollRight
  | .toIndex index => view.scrollTo index
  | .recenter index => view.recenter index

/-- Move the window. -/
def scroll (timeline : Timeline α) (run : RunId) (step : ScrollStep) :
    Timeline α × Except ViewError Command :=
  match moveView timeline.view step with
  | (view, .error error) => ({ timeline with view }, .error error)
  | (view, .ok demand) =>
    let (issued, command) := { timeline with view }.issue run demand
    (issued, .ok command)

/-! ## Outcomes of fetches -/

/-- A total arrived at time `now`.  Besides the command the result says whether
the total grew. -/
def onTotal (timeline : Timeline α) (run : RunId) (total now : Nat) :
    Timeline α × Except ViewError (Command × Bool) :=
  match timeline.view.setNumItems total with
  | (view, .error error) =>
    ({ timeline with view, totalLoad := timeline.totalLoad.fail }, .error error)
  | (view, .ok demand) =>
    let updated := { timeline with view, totalLoad := timeline.totalLoad.finish now }
    let (issued, command) := updated.issue run demand
    (issued, .ok (command, timeline.numItems < total))

/-- A page arrived at time `now`.  When it brings a larger total, the window is
asked again what it is missing.  Besides the command the result says whether the
total grew. -/
def onPage (timeline : Timeline α) (run : RunId) (batch : Batch α) (now : Nat) :
    Timeline α × Except ViewError (Command × Bool) :=
  match timeline.view.merge batch with
  | (view, .error error) =>
    let merged := { timeline with view }
    if merged.isIdle then
      ({ merged with pagesLoad := merged.pagesLoad.fail }, .error error)
    else (merged, .error error)
  | (view, .ok report) =>
    let merged := { timeline with view }
    let settled :=
      if merged.isIdle then { merged with pagesLoad := merged.pagesLoad.finish now } else merged
    if report.totalGrew then
      match settled.view.resolveWindow with
      | (view, .error error) => ({ settled with view }, .error error)
      | (view, .ok demand) =>
        let (issued, command) := { settled with view }.issue run demand
        (issued, .ok (command, true))
    else (settled, .ok (.none, false))

/-- A page could not be fetched. -/
def onPageFailed (timeline : Timeline α) (range : Interval) : Timeline α :=
  { timeline with
    view := (timeline.view.failFetch range).1
    pagesLoad := timeline.pagesLoad.fail }

/-- The total could not be fetched. -/
def onTotalFailed (timeline : Timeline α) : Timeline α :=
  { timeline with totalLoad := timeline.totalLoad.fail }

end Timeline

end TraceViewer
