import TraceViewer.Error
import TraceViewer.Interval

/-!
# Scroll windows

A window shows a fixed number of consecutive items of a sequence and may have one
item in focus, inside the window or not.  It knows nothing of loading; the length
of the sequence is an argument wherever it matters.

Positions and lengths are natural numbers that stand for 64-bit words.  The sums of a
position and a length, such as `scrollBegin + displayCount`, are assumed to stay below
`2 ^ 64`; the differences are cut off at zero, as natural numbers are.
-/

namespace TraceViewer

/-- The position of a viewport over a sequence, and its focus. -/
structure ScrollWindow where
  /-- The first item shown. -/
  scrollBegin : Nat
  /-- How many items are shown. -/
  displayCount : Nat
  /-- The item in focus. -/
  focus : Option Nat
deriving Repr, DecidableEq, Inhabited

namespace ScrollWindow

/-- The window at the start of a sequence, without focus. -/
def ofDisplayCount (displayCount : Nat) : ScrollWindow :=
  { scrollBegin := 0, displayCount, focus := none }

/-- The last start at which the window is full, or zero in a short sequence. -/
def maxScrollBegin (window : ScrollWindow) (numItems : Nat) : Nat :=
  numItems - window.displayCount

/-- The items shown, cut off at the end of the sequence. -/
def visibleRange (window : ScrollWindow) (numItems : Nat) : Interval where
  start := min window.scrollBegin numItems
  stop := min (window.scrollBegin + window.displayCount) numItems

/-- The window one item further back, unless it is at the start. -/
def scrollLeft? (window : ScrollWindow) : Option ScrollWindow :=
  if window.scrollBegin = 0 then none
  else some { window with scrollBegin := window.scrollBegin - 1 }

/-- The window one item further on, unless it shows the last item or is past it. -/
def scrollRight? (window : ScrollWindow) (numItems : Nat) : Option ScrollWindow :=
  if numItems ≤ window.scrollBegin + window.displayCount then none
  else some { window with scrollBegin := window.scrollBegin + 1 }

/-- The window that starts at `index`, which may not be past the last full window. -/
def scrollTo (window : ScrollWindow) (index numItems : Nat) : Except ViewError ScrollWindow :=
  if window.maxScrollBegin numItems < index then
    .error (.outOfRange index (window.maxScrollBegin numItems))
  else .ok { window with scrollBegin := index }

/-- The window with `index` in its middle, wherever the sequence ends. -/
def recenter (window : ScrollWindow) (index : Nat) : ScrollWindow :=
  { window with scrollBegin := index - window.displayCount / 2 }

/-- The window with another focus. -/
def setFocus (window : ScrollWindow) (focus : Option Nat) : ScrollWindow :=
  { window with focus }

/-- The item that stands at an offset within the window. -/
def indexAt (window : ScrollWindow) (offset : Nat) : Nat := window.scrollBegin + offset

/-- The offset of the focused item within the window, when it is shown. -/
def focusOffset (window : ScrollWindow) : Option Nat :=
  window.focus.bind fun focus =>
    if window.scrollBegin ≤ focus ∧ focus < window.scrollBegin + window.displayCount then
      some (focus - window.scrollBegin)
    else none

end ScrollWindow

end TraceViewer
