import Std.Data.ExtTreeSet
import TraceViewer.Session.Timeline

/-!
# The timeline of top-level executions

The paged sequence holds only digests.  The full record of an execution is fetched
when the execution has focus, once at a time.
-/

namespace TraceViewer

/-- The top-level executions of a session. -/
structure ExecutionTimeline where
  digests : Timeline ExecutionDigest
  /-- The records held, by index. -/
  records : Std.ExtTreeMap Nat Execution
  /-- The executions whose records are being fetched. -/
  recordsInFlight : Std.ExtTreeSet Nat

namespace ExecutionTimeline

/-- The timeline of executions of which nothing is known. -/
def fresh (geometry : Geometry) (valid : geometry.Valid) : ExecutionTimeline where
  digests := .fresh .executions geometry valid
  records := ∅
  recordsInFlight := ∅

/-- The record of the focused execution, when it is held. -/
def focusedRecord (timeline : ExecutionTimeline) : Option Execution :=
  timeline.digests.focus.bind fun index => timeline.records[index]?

/-- Ask for a record, unless there is no such execution or its record is held or
being fetched. -/
def requestRecord (timeline : ExecutionTimeline) (run : RunId) (index : Nat) :
    ExecutionTimeline × Command :=
  if timeline.digests.numItems ≤ index ∨ index ∈ timeline.records ∨
      index ∈ timeline.recordsInFlight then
    (timeline, .none)
  else
    ({ timeline with recordsInFlight := timeline.recordsInFlight.insert index },
      .fetch run (.executionData ⟨index, index + 1⟩))

/-- The records of a range are no longer being fetched. -/
def release (timeline : ExecutionTimeline) (range : Interval) : ExecutionTimeline :=
  { timeline with
    recordsInFlight := timeline.recordsInFlight.filter fun index => index ∉ range }

/-- Hold consecutive records from an index on. -/
def putAll (timeline : ExecutionTimeline) (start : Nat) : List Execution → ExecutionTimeline
  | [] => timeline
  | record :: rest =>
    { timeline with records := timeline.records.insert start record }.putAll (start + 1) rest

/-- Records arrived.  They have to fill their range. -/
def onRecords (timeline : ExecutionTimeline) (range : Interval) (records : List Execution) :
    ExecutionTimeline × Except ViewError Unit :=
  let released := timeline.release range
  if range.stop < range.start ∨ records.length ≠ range.length then
    (released,
      .error (.invalidArgument (.misfitRecords range.start range.stop records.length)))
  else (released.putAll range.start records, .ok ())

end ExecutionTimeline

end TraceViewer
