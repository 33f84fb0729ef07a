import Std.Data.ExtTreeSet
import TraceViewer.StackFrame

/-!
# Stack traces

A record names the frames of its call stack by id, the outermost first.  A trace is
resolved as a whole: one id that is not in the table leaves no trace.

A sticky line follows the trace.  When the trace changes, the line moves to the
last frame that lies in its file, and never to another file.
-/

namespace TraceViewer.StackTrace

/-! ## Resolving ids -/

/-- The frames of a list of ids, when every one of them is in the table. -/
def frames? (table : FrameTable) (ids : List FrameId) : Option (List StackFrame) :=
  ids.mapM fun id => table[id]?

/-- The ids of a list without repetitions, in the order of their first occurrence. -/
def firstOccurrences : List FrameId → List FrameId
  | [] => []
  | id :: rest => id :: (firstOccurrences rest).filter (· ≠ id)

@[simp] theorem mem_firstOccurrences {id : FrameId} {ids : List FrameId} :
    id ∈ firstOccurrences ids ↔ id ∈ ids := by
  induction ids with
  | nil => simp [firstOccurrences]
  | cons head rest ih => by_cases h : id = head <;> simp [firstOccurrences, ih, h]

theorem nodup_firstOccurrences (ids : List FrameId) : (firstOccurrences ids).Nodup := by
  induction ids with
  | nil => simp [firstOccurrences]
  | cons head rest ih =>
    rw [firstOccurrences, List.nodup_cons]
    exact ⟨by simp, ih.filter _⟩

/-- The ids that are neither in the table nor being fetched, each once. -/
def missingIds (table : FrameTable) (inFlight : Std.ExtTreeSet FrameId) (ids : List FrameId) :
    List FrameId :=
  firstOccurrences (ids.filter fun id => id ∉ table ∧ id ∉ inFlight)

/-! ## The sticky line -/

/-- The last frame that lies in a file. -/
def lastInFile (frames : List StackFrame) (file : SourceFile) : Option StackFrame :=
  (frames.filter (·.isInFile file)).getLast?

/-- Where a sticky line moves, if it moves: to the last frame in its file, unless it
is there already. -/
def follow (frames : List StackFrame) (line : StackFrame) : Option StackFrame :=
  (lastInFile frames line.file).filter (· ≠ line)

/-- Whether a click on a frame makes the line sticky: the frame has to be the last
one in its file. -/
def isStickyClick (clicked : StackFrame) (frames : List StackFrame) : Bool :=
  lastInFile frames clicked.file = some clicked

/-! ## Display -/

/-- A frame as the stack-trace panel shows it. -/
structure DisplayFrame where
  hostName : String
  filePath : String
  /-- The last component of the path. -/
  concisePath : String
  lineNumber : UInt32
  functionName : String
  /-- Whether the frame lies in the file of the focused line. -/
  inFocusedFile : Bool
  /-- Whether the frame is at the focused line. -/
  focused : Bool
deriving Repr, DecidableEq

/-- A frame, prepared for display beside the focused line. -/
def displayFrame (focusLine : Option StackFrame) (frame : StackFrame) : DisplayFrame :=
  { hostName := frame.hostName
    filePath := frame.filePath
    concisePath := TraceViewer.concisePath frame.filePath
    lineNumber := frame.lineNumber
    functionName := frame.functionName
    inFocusedFile := focusLine.any fun line => frame.isInFile line.file
    focused := focusLine.any fun line => frame.isAtLine line.line }

/-- The frames of a trace, prepared for display. -/
def display (focusLine : Option StackFrame) (frames : List StackFrame) : List DisplayFrame :=
  frames.map (displayFrame focusLine)

end TraceViewer.StackTrace
