import Std.Data.ExtTreeMap
import TraceViewer.Error
import TraceViewer.Page.Basic

/-!
# The pages a window is missing

A window at most one page wide touches at most two pages.  Which of them have to
be fetched is decided from the number of items that each page holds so far.
-/

namespace TraceViewer.Page

/-- The number of items held, for every page that holds any. -/
abbrev LoadedSizes := Std.ExtTreeMap Nat Nat

/-- Whether the first page of a window is missing: nothing of it is held, or it
is not full and the sequence goes on past what it holds. -/
def firstIsMissing (page pageSize total : Nat) (sizes : LoadedSizes) : Bool :=
  match sizes[page]? with
  | none => true
  | some loaded => loaded < pageSize && page * pageSize + loaded < total

/-- Whether the second page of a window that ends at `stop` is missing: nothing
of it is held, or what it holds does not reach the end of the window. -/
def secondIsMissing (page pageSize stop : Nat) (sizes : LoadedSizes) : Bool :=
  match sizes[page]? with
  | none => true
  | some loaded => page * pageSize + loaded < stop

/-- The pages to fetch for a nonempty window that passes the checks of `missing`. -/
def missingOf (window : Interval) (pageSize total : Nat) (sizes : LoadedSizes) : List Nat :=
  let first := ofIndex window.start pageSize
  let last := ofIndex (window.stop - 1) pageSize
  (if firstIsMissing first pageSize total sizes then [first] else []) ++
    (if last ≠ first && secondIsMissing last pageSize window.stop sizes then [last] else [])

/-- The pages that have to be fetched to show a window, ascending.  The window
has to lie inside the sequence and be at most one page wide. -/
def missing (window : Interval) (pageSize total : Nat) (sizes : LoadedSizes) :
    Except ViewError (List Nat) :=
  if pageSize = 0 then .error (.invalidArgument .emptyPages)
  else if window.stop < window.start then
    .error (.invalidArgument (.reversedWindow window.start window.stop))
  else if total < window.stop then
    .error (.invalidArgument (.windowPastEnd window.stop total))
  else if pageSize < window.length then
    .error (.invalidArgument (.windowExceedsPage window.length pageSize))
  else if window.start = window.stop then .ok []
  else .ok (missingOf window pageSize total sizes)

end TraceViewer.Page
