import TraceViewer.Error
import TraceViewer.Text.Blank
import TraceViewer.Text.Count

/-!
# Configuration

A configuration has defaults, and a lookup of environment variables may override
each of them.  A variable that is not set, or that holds no value of the right
kind, leaves the default.
-/

namespace TraceViewer

/-- How a sequence is paged and shown. -/
structure Geometry where
  /-- How many items a page has. -/
  pageSize : Nat
  /-- How many items are shown at once. -/
  displayCount : Nat
deriving Repr, DecidableEq, Inhabited

/-- Pages may not be empty, and the items shown have to fit in a page. -/
def Geometry.validate (geometry : Geometry) : Except ViewError Unit :=
  if geometry.pageSize = 0 then .error (.invalidArgument .emptyPages)
  else if geometry.pageSize < geometry.displayCount then
    .error (.invalidArgument
      (.displayExceedsPage geometry.displayCount geometry.pageSize))
  else .ok ()

namespace Geometry

/-- A geometry that `validate` accepts. -/
def Valid (geometry : Geometry) : Prop :=
  0 < geometry.pageSize ∧ geometry.displayCount ≤ geometry.pageSize

instance (geometry : Geometry) : Decidable geometry.Valid :=
  inferInstanceAs (Decidable (_ ∧ _))

theorem validate_eq_ok_iff {geometry : Geometry} :
    geometry.validate = .ok () ↔ geometry.Valid := by
  unfold validate Valid
  split
  · simp; omega
  · split <;> simp <;> omega

end Geometry

/-- The configuration of a session. -/
structure Config where
  /-- The paging of the top-level executions. -/
  executions : Geometry := { pageSize := 100, displayCount := 50 }
  /-- The paging of the executions inside graphs. -/
  graphExecutions : Geometry := { pageSize := 200, displayCount := 100 }
  /-- How many executions back the inputs of a graph execution are looked for. -/
  maxLookBack : Nat := 200
  /-- Whether the focused line follows the stack from the start. -/
  stickyFocus : Bool := false
  /-- What is logged. -/
  logDirective : String := "info"
deriving Repr, DecidableEq, Inhabited

namespace Config

/-- Both sequences need a valid geometry; the fault of the first is reported first. -/
def validate (config : Config) : Except ViewError Unit := do
  config.executions.validate
  config.graphExecutions.validate

/-- A configuration that `validate` accepts. -/
def Valid (config : Config) : Prop :=
  config.executions.Valid ∧ config.graphExecutions.Valid

instance (config : Config) : Decidable config.Valid :=
  inferInstanceAs (Decidable (_ ∧ _))

theorem validate_eq_ok_iff {config : Config} : config.validate = .ok () ↔ config.Valid := by
  unfold validate Valid
  rw [← Geometry.validate_eq_ok_iff, ← Geometry.validate_eq_ok_iff]
  cases config.executions.validate with
  | error error => simp [bind, Except.bind]
  | ok => simp [bind, Except.bind]

/-- The defaults are accepted. -/
theorem valid_default : Config.Valid {} := by
  decide

/-! ## Environment variables -/

/-- The count that a variable holds, blanks around it aside. -/
def countOf? (value : String) : Option Nat :=
  Text.count? (Text.trimBlanks value.toList)

/-- The truth value that a variable holds, blanks around it and the case of ASCII
letters aside. -/
def flagOf? (value : String) : Option Bool :=
  match String.ofList ((Text.trimBlanks value.toList).map Char.toLower) with
  | "1" | "true" | "yes" | "on" => some true
  | "0" | "false" | "no" | "off" => some false
  | _ => none

/-- The value of a variable that is not blank, kept as it is. -/
def textOf? (value : String) : Option String :=
  if (Text.trimBlanks value.toList).isEmpty then none else some value

/-- The defaults, overridden by what `lookup` finds. -/
def ofEnvironment (lookup : String → Option String) : Config :=
  let default : Config := {}
  let count (name : String) (otherwise : Nat) : Nat :=
    ((lookup name).bind countOf?).getD otherwise
  { executions :=
      { pageSize := count "DBGSCOPE_EXECUTION_PAGE_SIZE" default.executions.pageSize
        displayCount :=
          count "DBGSCOPE_EXECUTION_DISPLAY_COUNT" default.executions.displayCount }
    graphExecutions :=
      { pageSize :=
          count "DBGSCOPE_GRAPH_EXECUTION_PAGE_SIZE" default.graphExecutions.pageSize
        displayCount :=
          count "DBGSCOPE_GRAPH_EXECUTION_DISPLAY_COUNT" default.graphExecutions.displayCount }
    maxLookBack := count "DBGSCOPE_MAX_LOOK_BACK" default.maxLookBack
    stickyFocus := ((lookup "DBGSCOPE_STICKY_FOCUS").bind flagOf?).getD default.stickyFocus
    logDirective := ((lookup "DBGSCOPE_LOG").bind textOf?).getD default.logDirective }

end Config

end TraceViewer
