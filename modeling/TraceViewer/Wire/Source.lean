import TraceViewer.Wire.Basic
import TraceViewer.SourceFile
import TraceViewer.StackTrace

/-!
# Source files and stack frames on the wire

A stack frame is also read from the array of its four fields, as is every record
whose fields have no defaults.
-/

namespace TraceViewer

namespace SourceFile

/-- The fields of a source file. -/
def layout : Json.Layout := { names := ["host_name", "file_path"], least := 2 }

/-- A source file as a record. -/
def toJson (file : SourceFile) : Json :=
  .object [("host_name", .string file.hostName), ("file_path", .string file.filePath)]

/-- The source file that a record describes. -/
def ofJson? (json : Json) : Option SourceFile := do
  let fields ← json.record? layout
  return {
    hostName := ← fields.required "host_name" Json.string?
    filePath := ← fields.required "file_path" Json.string? }

end SourceFile

namespace SourceLine

/-- The fields of a source line. -/
def layout : Json.Layout := { names := ["host_name", "file_path", "lineno"], least := 3 }

/-- A source line as a record. -/
def toJson (line : SourceLine) : Json :=
  .object
    [("host_name", .string line.hostName), ("file_path", .string line.filePath),
      ("lineno", .ofUInt32 line.lineNumber)]

/-- The source line that a record describes. -/
def ofJson? (json : Json) : Option SourceLine := do
  let fields ← json.record? layout
  return {
    hostName := ← fields.required "host_name" Json.string?
    filePath := ← fields.required "file_path" Json.string?
    lineNumber := ← fields.required "lineno" Json.uint32? }

end SourceLine

namespace FileContent

/-- The fields of a file content. -/
def layout : Json.Layout := { names := ["load_state", "lines"], least := 2 }

/-- A file content as a record. -/
def toJson (content : FileContent) : Json :=
  .object
    [("load_state", content.phase.toJson), ("lines", .ofOption .ofStrings content.lines)]

/-- The file content that a record describes. -/
def ofJson? (json : Json) : Option FileContent := do
  let fields ← json.record? layout
  return {
    phase := ← fields.required "load_state" LoadPhase.ofJson?
    lines := ← fields.nullable "lines" Json.strings? }

end FileContent

namespace StackFrame

/-- The fields of a stack frame. -/
def layout : Json.Layout :=
  { names := ["host_name", "file_path", "lineno", "function_name"], least := 4 }

/-- A stack frame as a record. -/
def toJson (frame : StackFrame) : Json :=
  .object
    [("host_name", .string frame.hostName), ("file_path", .string frame.filePath),
      ("lineno", .ofUInt32 frame.lineNumber), ("function_name", .string frame.functionName)]

/-- The stack frame that a record describes. -/
def ofJson? (json : Json) : Option StackFrame := do
  let fields ← json.record? layout
  return {
    hostName := ← fields.required "host_name" Json.string?
    filePath := ← fields.required "file_path" Json.string?
    lineNumber := ← fields.required "lineno" Json.uint32?
    functionName := ← fields.required "function_name" Json.string? }

end StackFrame

namespace FrameTable

/-- A table of frames as an object, by id. -/
def toJson (frames : FrameTable) : Json :=
  .object (frames.toList.map fun (id, frame) => (id, frame.toJson))

/-- The table of frames that an object describes. -/
def ofJson? (json : Json) : Option FrameTable :=
  (json.entries? StackFrame.ofJson?).map fun entries => .ofList entries

end FrameTable

/-- A displayed frame as a record. -/
def StackTrace.DisplayFrame.toJson (frame : StackTrace.DisplayFrame) : Json :=
  .object
    [("host_name", .string frame.hostName), ("file_path", .string frame.filePath),
      ("concise_file_path", .string frame.concisePath),
      ("lineno", .ofUInt32 frame.lineNumber), ("function_name", .string frame.functionName),
      ("belongs_to_focused_file", .bool frame.inFocusedFile), ("focused", .bool frame.focused)]

end TraceViewer
