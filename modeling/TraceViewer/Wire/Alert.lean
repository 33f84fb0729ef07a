import TraceViewer.Wire.Basic
import TraceViewer.Alert

/-!
# Alerts on the wire

An alert is a union whose tag is the name of its kind.  Inside another union the tag
may also be the rank of the kind, and a kind that stands for itself may be written
with an empty object as its content.
-/

namespace TraceViewer

namespace AlertType

/-- A kind as its name. -/
def toJson (alertType : AlertType) : Json := .string alertType.name

/-- The kind that a value names. -/
def ofJson? (json : Json) : Option AlertType := json.name?.bind ofName?

/-- The kind that a value inside a union names. -/
def ofEnclosedJson? (json : Json) : Option AlertType := json.enclosedName?.bind ofName?

/-- The kind that a tag names. -/
def ofTag? (tag : Json) : Option AlertType := tag.string?.bind ofName?

/-- The kind that a tag inside another union names, or whose rank it gives. -/
def ofEnclosedTag? (tag : Json) : Option AlertType :=
  match tag.nat? with
  | some rank => all[rank]?
  | none => ofTag? tag

end AlertType

namespace InfNanAlert

/-- The fields of an alert. -/
def layout : Json.Layout :=
  { names :=
      ["op_type", "output_slot", "size", "num_neg_inf", "num_pos_inf", "num_nan",
        "execution_index", "graph_execution_trace_index"]
    least := 7 }

/-- The named fields of an alert. -/
def toFields (alert : InfNanAlert) : Json.Fields :=
  [("op_type", .string alert.opType), ("output_slot", .ofUInt32 alert.outputSlot),
    ("size", .ofNat alert.size), ("num_neg_inf", .ofNat alert.numNegInf),
    ("num_pos_inf", .ofNat alert.numPosInf), ("num_nan", .ofNat alert.numNaN),
    ("execution_index", .ofNat alert.executionIndex),
    ("graph_execution_trace_index", .ofOption .ofNat alert.graphExecutionIndex)]

/-- An alert as a record. -/
def toJson (alert : InfNanAlert) : Json := .object alert.toFields

/-- The alert that a record describes. -/
def ofJson? (json : Json) : Option InfNanAlert := do
  let fields ← json.record? layout
  return {
    opType := ← fields.required "op_type" Json.string?
    outputSlot := ← fields.required "output_slot" Json.uint32?
    size := ← fields.required "size" Json.nat?
    numNegInf := ← fields.required "num_neg_inf" Json.nat?
    numPosInf := ← fields.required "num_pos_inf" Json.nat?
    numNaN := ← fields.required "num_nan" Json.nat?
    executionIndex := ← fields.required "execution_index" Json.nat?
    graphExecutionIndex := ← fields.nullable "graph_execution_trace_index" Json.nat? }

end InfNanAlert

namespace FunctionRecompilesAlert

/-- The fields of an alert. -/
def layout : Json.Layout := { names := ["function_name", "num_compiles"], least := 2 }

/-- The named fields of an alert. -/
def toFields (alert : FunctionRecompilesAlert) : Json.Fields :=
  [("function_name", .string alert.functionName), ("num_compiles", .ofUInt32 alert.numCompiles)]

/-- An alert as a record. -/
def toJson (alert : FunctionRecompilesAlert) : Json := .object alert.toFields

/-- The alert that a record describes. -/
def ofJson? (json : Json) : Option FunctionRecompilesAlert := do
  let fields ← json.record? layout
  return {
    functionName := ← fields.required "function_name" Json.string?
    numCompiles := ← fields.required "num_compiles" Json.uint32? }

end FunctionRecompilesAlert

namespace TensorShapeAlert

/-- The fields of an alert. -/
def layout : Json.Layout :=
  { names := ["op_type", "output_slot", "execution_index", "graph_execution_trace_index"]
    least := 2 }

/-- The named fields of an alert. -/
def toFields (alert : TensorShapeAlert) : Json.Fields :=
  [("op_type", .string alert.opType), ("output_slot", .ofUInt32 alert.outputSlot),
    ("execution_index", .ofOption .ofNat alert.executionIndex),
    ("graph_execution_trace_index", .ofOption .ofNat alert.graphExecutionIndex)]

/-- An alert as a record. -/
def toJson (alert : TensorShapeAlert) : Json := .object alert.toFields

/-- The alert that a record describes. -/
def ofJson? (json : Json) : Option TensorShapeAlert := do
  let fields ← json.record? layout
  return {
    opType := ← fields.required "op_type" Json.string?
    outputSlot := ← fields.required "output_slot" Json.uint32?
    executionIndex := ← fields.nullable "execution_index" Json.nat?
    graphExecutionIndex := ← fields.nullable "graph_execution_trace_index" Json.nat? }

end TensorShapeAlert

namespace Alert

/-- The named fields of an alert of any kind. -/
def toFields : Alert → Json.Fields
  | .functionRecompiles alert => alert.toFields
  | .infNan alert => alert.toFields
  | .tensorShape alert => alert.toFields

/-- An alert as a union with the tag `alert_type`. -/
def toJson (alert : Alert) : Json :=
  .object (("alert_type", alert.alertType.toJson) :: alert.toFields)

/-- The alert that a union describes, when `readTag` reads its tag. -/
def ofJsonWith? (readTag : Json → Option AlertType) (json : Json) : Option Alert := do
  let (tag, content) ← json.union? "alert_type"
  match ← readTag tag with
  | .functionRecompiles =>
    return .functionRecompiles (← FunctionRecompilesAlert.ofJson? content)
  | .infNan => return .infNan (← InfNanAlert.ofJson? content)
  | .tensorShape => return .tensorShape (← TensorShapeAlert.ofJson? content)

/-- The alert that a union describes. -/
def ofJson? (json : Json) : Option Alert := ofJsonWith? AlertType.ofTag? json

/-- The alert that a union inside another union describes. -/
def ofEnclosedJson? (json : Json) : Option Alert := ofJsonWith? AlertType.ofEnclosedTag? json

end Alert

namespace AlertTally

/-- The fields of a tally. -/
def layout : Json.Layout := { names := ["num_alerts", "per_type"], least := 2 }

/-- The counts of the kinds as an object, by name. -/
def perTypeToJson (perType : Std.ExtTreeMap AlertType Nat) : Json :=
  .object (perType.toList.map fun (alertType, count) => (alertType.name, .ofNat count))

/-- The counts of the kinds that an object describes. -/
def perTypeOfJson? (json : Json) : Option (Std.ExtTreeMap AlertType Nat) := do
  let entries ← json.entries? Json.nat?
  let counts ← entries.mapM fun (name, count) => (AlertType.ofName? name).map (·, count)
  return .ofList counts

/-- The named fields of a tally. -/
def toFields (tally : AlertTally) : Json.Fields :=
  [("num_alerts", .ofNat tally.numAlerts), ("per_type", perTypeToJson tally.perType)]

/-- A tally as a record. -/
def toJson (tally : AlertTally) : Json := .object tally.toFields

/-- The tally that a record describes. -/
def ofJson? (json : Json) : Option AlertTally := do
  let fields ← json.record? layout
  return {
    numAlerts := ← fields.required "num_alerts" Json.nat?
    perType := ← fields.required "per_type" perTypeOfJson? }

end AlertTally

end TraceViewer
