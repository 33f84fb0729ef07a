/-!
# Half-open intervals

An interval `[start, stop)` of indices.  It is empty when `stop` does not exceed
`start`; nothing forbids a `stop` below `start`, because intervals also come from
outside.
-/

namespace TraceViewer

/-- The indices from `start` up to `stop`, the latter excluded. -/
structure Interval where
  start : Nat
  stop : Nat
deriving Repr, DecidableEq, Inhabited

namespace Interval

instance : Membership Nat Interval where
  mem interval index := interval.start ≤ index ∧ index < interval.stop

instance (index : Nat) (interval : Interval) : Decidable (index ∈ interval) :=
  inferInstanceAs (Decidable (_ ∧ _))

theorem mem_def {index : Nat} {interval : Interval} :
    index ∈ interval ↔ interval.start ≤ index ∧ index < interval.stop := Iff.rfl

/-- Whether no index lies in the interval. -/
def isEmpty (interval : Interval) : Bool := interval.stop ≤ interval.start

/-- The number of indices in the interval. -/
def length (interval : Interval) : Nat := interval.stop - interval.start

/-- The indices of the interval, ascending. -/
def indices (interval : Interval) : List Nat := List.range' interval.start interval.length

@[simp]
theorem mem_indices {index : Nat} {interval : Interval} :
    index ∈ interval.indices ↔ index ∈ interval := by
  simp only [indices, length, List.mem_range'_1, mem_def]
  omega

/-- The position of `interval` in a list of intervals. -/
def position? (interval : Interval) (intervals : List Interval) : Option Nat :=
  intervals.findIdx? (· = interval)

end Interval

end TraceViewer
