import Std.Data.ExtTreeMap
import TraceViewer.SourceFile

/-!
# Stack frames

A stack frame is a line of a source file and the function it belongs to.  Records
name their frames by id; the frames themselves are kept in a table.
-/

namespace TraceViewer

/-- The id under which records name a stack frame. -/
abbrev FrameId := String

/-- One frame of a call stack. -/
structure StackFrame where
  hostName : String
  filePath : String
  lineNumber : UInt32
  functionName : String
deriving Repr, DecidableEq, Inhabited

/-- Stack frames by id. -/
abbrev FrameTable := Std.ExtTreeMap FrameId StackFrame

namespace StackFrame

/-- The file of a frame. -/
def file (frame : StackFrame) : SourceFile :=
  { hostName := frame.hostName, filePath := frame.filePath }

/-- The line of a frame. -/
def line (frame : StackFrame) : SourceLine :=
  { hostName := frame.hostName, filePath := frame.filePath, lineNumber := frame.lineNumber }

/-- Whether a frame lies in a file. -/
def isInFile (frame : StackFrame) (file : SourceFile) : Bool :=
  frame.hostName = file.hostName ∧ frame.filePath = file.filePath

/-- Whether a frame is at a line. -/
def isAtLine (frame : StackFrame) (line : SourceLine) : Bool :=
  frame.isInFile line.file && frame.lineNumber = line.lineNumber

@[simp]
theorem isInFile_file (frame : StackFrame) : frame.isInFile frame.file = true := by
  simp [isInFile, file]

theorem isInFile_iff {frame : StackFrame} {file : SourceFile} :
    frame.isInFile file = true ↔ frame.file = file := by
  cases file
  simp [isInFile, StackFrame.file]

end StackFrame

end TraceViewer
