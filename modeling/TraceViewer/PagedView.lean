import TraceViewer.Config
import TraceViewer.PagedSequence
import TraceViewer.ScrollWindow

/-!
# Paged views

A paged view is a paged sequence seen through a scroll window.  Whatever moves the
window or changes the total asks again for the visible items, and hands back the
pages that now have to be fetched.  The view fetches nothing itself.

Every operation returns the view as it is afterwards, also when it is refused.
-/

namespace TraceViewer

/-- A paged sequence and the window it is seen through. -/
structure PagedView (α : Type) where
  sequence : PagedSequence α
  window : ScrollWindow

namespace PagedView

variable {α : Type}

/-- The view of a sequence of which nothing is known. -/
def fresh (geometry : Geometry) (valid : geometry.Valid) : PagedView α where
  sequence := .ofPageSize geometry.pageSize valid.1
  window := .ofDisplayCount geometry.displayCount

/-- The view of a sequence of which nothing is known, unless the geometry is not
valid. -/
def ofGeometry (geometry : Geometry) : Except ViewError (PagedView α) :=
  match h : geometry.validate with
  | .error error => .error error
  | .ok () => .ok (fresh geometry (Geometry.validate_eq_ok_iff.mp h))

/-! ## Looking at a view -/

/-- The number of items that the source reported. -/
def numItems (view : PagedView α) : Nat := view.sequence.numItems

/-- The item in focus, when it is held. -/
def focusedItem (view : PagedView α) : Option α :=
  view.window.focus.bind fun index => view.sequence.items[index]?

/-- The items shown, cut off at the end of the sequence. -/
def visibleRange (view : PagedView α) : Interval := view.window.visibleRange view.numItems

/-- The slots of the window, empty where nothing is held. -/
def visibleSlice (view : PagedView α) : List (Option α) :=
  view.sequence.visibleSlice view.window.scrollBegin view.window.displayCount

/-! ## Moving the window -/

/-- Ask for what the window is missing. -/
def resolveWindow (view : PagedView α) : PagedView α × Except ViewError PageDemand :=
  if view.visibleRange.isEmpty then (view, .ok {})
  else
    let (sequence, result) := view.sequence.requestWindow view.visibleRange
    ({ view with sequence }, result)

/-- Go to another window, if there is one, and ask for what it is missing. -/
def moveTo (view : PagedView α) :
    Option ScrollWindow → PagedView α × Except ViewError PageDemand
  | none => (view, .ok {})
  | some window => { view with window }.resolveWindow

/-- Scroll back by one item. -/
def scrollLeft (view : PagedView α) : PagedView α × Except ViewError PageDemand :=
  view.moveTo view.window.scrollLeft?

/-- Scroll on by one item. -/
def scrollRight (view : PagedView α) : PagedView α × Except ViewError PageDemand :=
  view.moveTo (view.window.scrollRight? view.numItems)

/-- Start the window at `index`, which may not be past the last full window. -/
def scrollTo (view : PagedView α) (index : Nat) : PagedView α × Except ViewError PageDemand :=
  match view.window.scrollTo index view.numItems with
  | .error error => (view, .error error)
  | .ok window => view.moveTo (some window)

/-- Put `index` in the middle of the window, wherever the sequence ends. -/
def recenter (view : PagedView α) (index : Nat) : PagedView α × Except ViewError PageDemand :=
  view.moveTo (some (view.window.recenter index))

/-- Change the focus; nothing has to be fetched for it. -/
def setFocus (view : PagedView α) (focus : Option Nat) : PagedView α :=
  { view with window := view.window.setFocus focus }

/-! ## Totals and answers -/

/-- Record a new total and ask for what the window is missing now. -/
def setNumItems (view : PagedView α) (total : Nat) :
    PagedView α × Except ViewError PageDemand :=
  match view.sequence.setNumItems total with
  | (sequence, .error error) => ({ view with sequence }, .error error)
  | (sequence, .ok _) => { view with sequence }.resolveWindow

/-- Say whether a batch of `count` items would be merged, without merging it. -/
def checkBatch (view : PagedView α) (range : Interval) (count total : Nat) :
    Except ViewError Unit :=
  if total < view.numItems then .error (.consistencyViolation view.numItems total)
  else if range.start ≤ range.stop ∧ range.start + count = range.stop ∧ range.stop ≤ total then
    .ok ()
  else .error (.invalidArgument (.misfitBatch range.start range.stop count total))

/-- Merge a batch into the sequence. -/
def merge (view : PagedView α) (batch : Batch α) :
    PagedView α × Except ViewError MergeReport :=
  let (sequence, result) := view.sequence.merge batch
  ({ view with sequence }, result)

/-- A fetch for a range failed.  The number of released pages is returned. -/
def failFetch (view : PagedView α) (range : Interval) : PagedView α × Nat :=
  let (sequence, released) := view.sequence.failFetch range
  ({ view with sequence }, released)

end PagedView

end TraceViewer
