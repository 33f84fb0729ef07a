import TraceViewer.SourceFile

/-!
# Errors

The viewer refuses an operation for one of four reasons, a data source fails for
one of three, and a session reports either kind.  Each error is its cause; the
wording is in the `message` functions.
-/

namespace TraceViewer

/-! ## The viewer -/

/-- What is wrong with an argument that can never be valid. -/
inductive ArgumentFault where
  /-- Pages of no items. -/
  | emptyPages
  /-- A window wider than a page. -/
  | displayExceedsPage (displayCount pageSize : Nat)
  /-- A requested window that ends before it begins. -/
  | reversedWindow (start stop : Nat)
  /-- A requested window that ends past the last item. -/
  | windowPastEnd (stop total : Nat)
  /-- A requested window that is wider than a page. -/
  | windowExceedsPage (width pageSize : Nat)
  /-- A batch whose items do not fill its interval, or whose interval passes its total. -/
  | misfitBatch (start stop count total : Nat)
  /-- Execution records that do not fill their interval. -/
  | misfitRecords (start stop count : Nat)
  /-- Alerts that do not fill their interval. -/
  | misfitAlerts (start stop count : Nat)
  /-- A graph op that names no graph around it. -/
  | opOutsideGraphs (opName : String)
  /-- A fault put in words by whoever reports it. -/
  | stated (text : String)
deriving Repr, DecidableEq

/-- The wording of an argument fault. -/
def ArgumentFault.message : ArgumentFault → String
  | .emptyPages => "Invalid pageSize: 0"
  | .displayExceedsPage displayCount pageSize =>
    s!"display count ({displayCount}) exceeds page size ({pageSize})"
  | .reversedWindow start stop => s!"begin index ({start}) exceeds end index ({stop})"
  | .windowPastEnd stop total =>
    s!"end index ({stop}) exceeds total number of items ({total})"
  | .windowExceedsPage width pageSize =>
    s!"begin-end span ({width}) exceeds page size ({pageSize})"
  | .misfitBatch start stop count total =>
    s!"batch [{start}, {stop}) with {count} items does not fit total {total}"
  | .misfitRecords start stop count =>
    s!"execution data [{start}, {stop}) carries {count} records"
  | .misfitAlerts start stop count =>
    s!"alert batch [{start}, {stop}) carries {count} alerts"
  | .opOutsideGraphs opName => s!"graph op {opName} has no enclosing graph"
  | .stated text => text

/-- Why the viewer refuses an operation. -/
inductive ViewError where
  /-- An argument that can never be valid. -/
  | invalidArgument (fault : ArgumentFault)
  /-- A scroll target beyond the last full window. -/
  | outOfRange (index max : Nat)
  /-- A total below the one known before. -/
  | consistencyViolation (known reported : Nat)
  /-- A file that the file list does not hold. -/
  | unknownSourceFile (file : SourceFile)
deriving Repr, DecidableEq

/-- The wording of a refusal. -/
def ViewError.message : ViewError → String
  | .invalidArgument fault => "invalid argument: " ++ fault.message
  | .outOfRange index max => s!"scroll index {index} exceeds maximum allowed index {max}"
  | .consistencyViolation known reported =>
    s!"data source reported {reported} items after previously reporting {known}"
  | .unknownSourceFile file =>
    "cannot find file in file list: host_name=\"" ++ file.hostName ++
      "\", file_path=\"" ++ file.filePath ++ "\""

/-! ## The data source -/

/-- Why a data source does not answer. -/
inductive TransportError where
  /-- The run or the record does not exist. -/
  | notFound (what : String)
  /-- The source cannot be reached or refuses the request. -/
  | unavailable (reason : String)
  /-- The source answers with something that cannot be read. -/
  | malformed (reason : String)
deriving Repr, DecidableEq

/-- The wording of a failure. -/
def TransportError.message : TransportError → String
  | .notFound what => "not found: " ++ what
  | .unavailable reason => "data source unavailable: " ++ reason
  | .malformed reason => "malformed response: " ++ reason

/-! ## The session -/

/-- Why a session driven against a data source reports an error. -/
inductive SessionError where
  /-- The viewer refused an event or a reply. -/
  | view (error : ViewError)
  /-- The data source could not answer. -/
  | transport (error : TransportError)
deriving Repr, DecidableEq

/-- The wording of a session error is that of its cause. -/
def SessionError.message : SessionError → String
  | .view error => error.message
  | .transport error => error.message

end TraceViewer
