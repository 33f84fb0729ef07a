import TraceViewer.Wire.Basic
import TraceViewer.Focus

/-!
# Graph ops on the wire

An op embeds its neighbours in its edges, and these may embed others.  Writing
recurses on the op.  Reading recurses on the depth of the JSON value, which every
embedded op diminishes.
-/

namespace TraceViewer

namespace GraphOpKey

/-- The fields of the key of an op. -/
def layout : Json.Layout := { names := ["graph_id", "op_name"], least := 2 }

/-- The key of an op as a record. -/
def toJson (key : GraphOpKey) : Json :=
  .object [("graph_id", .string key.graphId), ("op_name", .string key.opName)]

/-- The key that a record describes. -/
def ofJson? (json : Json) : Option GraphOpKey := do
  let fields ← json.record? layout
  return {
    graphId := ← fields.required "graph_id" Json.string?
    opName := ← fields.required "op_name" Json.string? }

end GraphOpKey

/-! ## Writing -/

mutual

/-- An op as a record. -/
def GraphOp.toJson : GraphOp → Json
  | ⟨opType, opName, graphIds, numOutputs, hostName, deviceName, frameIds, inputs, consumers⟩ =>
    .object
      [("op_type", .string opType), ("op_name", .string opName),
        ("graph_ids", .ofStrings graphIds), ("num_outputs", .ofUInt32 numOutputs),
        ("host_name", .string hostName), ("device_name", .ofOption .string deviceName),
        ("stack_frame_ids", .ofStrings frameIds),
        ("inputs", .array (OpInput.listToJson inputs)),
        ("consumers", .array (OpConsumer.slotsToJson consumers))]

/-- The inputs of an op. -/
def OpInput.listToJson : List (OpInput GraphOp) → List Json
  | [] => []
  | input :: rest => input.toJson :: OpInput.listToJson rest

/-- An input as a record, with the op it comes from when that is embedded. -/
def OpInput.toJson : OpInput GraphOp → Json
  | ⟨opName, outputSlot, data⟩ =>
    .object
      (("op_name", .string opName) :: ("output_slot", .ofUInt32 outputSlot) ::
        GraphOp.dataFields data)

/-- The consumers of every output. -/
def OpConsumer.slotsToJson : List (List (OpConsumer GraphOp)) → List Json
  | [] => []
  | slot :: rest => .array (OpConsumer.listToJson slot) :: OpConsumer.slotsToJson rest

/-- The consumers of one output. -/
def OpConsumer.listToJson : List (OpConsumer GraphOp) → List Json
  | [] => []
  | consumer :: rest => consumer.toJson :: OpConsumer.listToJson rest

/-- A consumer as a record, with the op it leads to when that is embedded. -/
def OpConsumer.toJson : OpConsumer GraphOp → Json
  | ⟨opName, inputSlot, data⟩ =>
    .object
      (("op_name", .string opName) :: ("input_slot", .ofUInt32 inputSlot) ::
        GraphOp.dataFields data)

/-- The field that holds an embedded op; there is none without one. -/
def GraphOp.dataFields : Option GraphOp → List (String × Json)
  | none => []
  | some op => [("data", op.toJson)]

end

/-! ## Reading -/

namespace OpInput

/-- The fields of an input. -/
def layout : Json.Layout := { names := ["op_name", "output_slot", "data"], least := 2 }

/-- The input that a record describes, when `readOp` reads an embedded op. -/
def ofJsonWith? {Op : Type} (readOp : Json → Option Op) (json : Json) : Option (OpInput Op) := do
  let fields ← json.record? layout
  return {
    opName := ← fields.required "op_name" Json.string?
    outputSlot := ← fields.required "output_slot" Json.uint32?
    data := ← fields.nullable "data" readOp }

end OpInput

namespace OpConsumer

/-- The fields of a consumer. -/
def layout : Json.Layout := { names := ["op_name", "input_slot", "data"], least := 2 }

/-- The consumer that a record describes, when `readOp` reads an embedded op. -/
def ofJsonWith? {Op : Type} (readOp : Json → Option Op) (json : Json) :
    Option (OpConsumer Op) := do
  let fields ← json.record? layout
  return {
    opName := ← fields.required "op_name" Json.string?
    inputSlot := ← fields.required "input_slot" Json.uint32?
    data := ← fields.nullable "data" readOp }

end OpConsumer

namespace GraphOp

/-- The fields of an op. -/
def layout : Json.Layout :=
  { names :=
      ["op_type", "op_name", "graph_ids", "num_outputs", "host_name", "device_name",
        "stack_frame_ids", "inputs", "consumers"]
    least := 3 }

/-- The op that a record describes, when `depth` bounds the depth of the record. -/
def ofJsonWithin? : Nat → Json → Option GraphOp
  | 0, _ => none
  | depth + 1, json => do
    let fields ← json.record? layout
    return {
      opType := ← fields.required "op_type" Json.string?
      opName := ← fields.required "op_name" Json.string?
      graphIds := ← fields.required "graph_ids" Json.strings?
      numOutputs := ← fields.defaulted "num_outputs" Json.uint32? 0
      hostName := ← fields.defaulted "host_name" Json.string? ""
      deviceName := ← fields.nullable "device_name" Json.string?
      frameIds := ← fields.defaulted "stack_frame_ids" Json.strings? []
      inputs := ←
        fields.defaulted "inputs" (Json.list? (OpInput.ofJsonWith? (ofJsonWithin? depth))) []
      consumers := ←
        fields.defaulted "consumers"
          (Json.list? (Json.list? (OpConsumer.ofJsonWith? (ofJsonWithin? depth)))) [] }

/-- The op that a record describes. -/
def ofJson? (json : Json) : Option GraphOp := ofJsonWithin? json.depth json

end GraphOp

/-- The input that a record describes. -/
def OpInput.ofJson? (json : Json) : Option (OpInput GraphOp) := ofJsonWith? GraphOp.ofJson? json

/-- The consumer that a record describes. -/
def OpConsumer.ofJson? (json : Json) : Option (OpConsumer GraphOp) :=
  ofJsonWith? GraphOp.ofJson? json

/-! ## Focus -/

namespace CodeLocation

/-- The name of a kind of code location. -/
def name : CodeLocation → String
  | .execution => "execution"
  | .graphOpCreation => "graph_op_creation"

/-- The kind of code location with a given name. -/
def ofName? : String → Option CodeLocation
  | "execution" => some .execution
  | "graph_op_creation" => some .graphOpCreation
  | _ => none

/-- A kind of code location as its name. -/
def toJson (location : CodeLocation) : Json := .string location.name

/-- The kind of code location that a value names. -/
def ofJson? (json : Json) : Option CodeLocation := json.name?.bind ofName?

end CodeLocation

namespace FocusOrigin

/-- An origin as a union with the tag `kind`. -/
def toJson : FocusOrigin → Json
  | .execution index => .object [("kind", CodeLocation.toJson .execution), ("index", .ofNat index)]
  | .graphOpCreation key =>
    .object
      [("kind", CodeLocation.toJson .graphOpCreation), ("graph_id", .string key.graphId),
        ("op_name", .string key.opName)]

/-- The origin that a union describes. -/
def ofJson? (json : Json) : Option FocusOrigin := do
  let (tag, content) ← json.union? "kind"
  match ← tag.string?.bind CodeLocation.ofName? with
  | .execution =>
    let fields ← content.record? { names := ["index"], least := 1 }
    return .execution (← fields.required "index" Json.nat?)
  | .graphOpCreation => return .graphOpCreation (← GraphOpKey.ofJson? content)

end FocusOrigin

end TraceViewer
