import TraceViewer.Proofs.Wire.Formats
import TraceViewer.Proofs.Wire.GraphOps

/-!
# Nothing is lost on the wire

What is written is read back, and a reader does not mind how the fields of a record are
arranged, the tag of a union among them, or which unknown fields stand beside them
(`Json.Faithful`).  For the formats that have records in their fields the same is said of
the records inside, at whatever level (`SpelledBy`).

A stack frame has a second form, the array of its fields.
-/

namespace TraceViewer

open Json

/-- Ops, their edges, alerts, requests, origins, tallies, file contents, load states, stack
frames and digests are read back from what is written, under any arrangement of the fields
and with further fields among them.  The counts of a tally may be listed in any order.  A
stack frame is read from the array of its four fields as from the object, and from no array
of another length. -/
theorem wire_formats_faithful :
    Faithful GraphOp.toJson GraphOp.ofJson? (fun _ => GraphOp.layout.names) ∧
    Faithful OpInput.toJson OpInput.ofJson? (fun _ => OpInput.layout.names) ∧
    Faithful OpConsumer.toJson OpConsumer.ofJson? (fun _ => OpConsumer.layout.names) ∧
    Faithful Alert.toJson Alert.ofJson? (unionNames "alert_type" Alert.caseNames) ∧
    Faithful Request.toJson Request.ofJson? (unionNames "kind" Request.caseNames) ∧
    Faithful FocusOrigin.toJson FocusOrigin.ofJson? (unionNames "kind" FocusOrigin.caseNames) ∧
    Faithful AlertTally.toJson AlertTally.ofJson? (fun _ => AlertTally.layout.names) ∧
    Faithful FileContent.toJson FileContent.ofJson? (fun _ => FileContent.layout.names) ∧
    Faithful LoadState.toJson LoadState.ofJson? (fun _ => LoadState.layout.names) ∧
    Faithful StackFrame.toJson StackFrame.ofJson? (fun _ => StackFrame.layout.names) ∧
    Faithful ExecutionDigest.toJson ExecutionDigest.ofJson?
      (fun _ => ExecutionDigest.layout.names) ∧
    ReadsSpellings GraphOp.toJson GraphOp.ofJson? GraphOp.SpelledBy ∧
    ReadsSpellings OpInput.toJson OpInput.ofJson? OpInput.SpelledBy ∧
    ReadsSpellings OpConsumer.toJson OpConsumer.ofJson? OpConsumer.SpelledBy ∧
    ReadsSpellings Request.toJson Request.ofJson? Request.SpelledBy ∧
    (∀ (tally : AlertTally) (counts : List (AlertType × Nat)),
      counts.Perm tally.perType.toList →
        AlertTally.ofJson? (.object [("num_alerts", .ofNat tally.numAlerts),
          ("per_type", .object (counts.map fun (kind, count) => (kind.name, .ofNat count)))]) =
            some tally) ∧
    (∀ frame : StackFrame, StackFrame.ofJson? (.array [.string frame.hostName,
      .string frame.filePath, .ofUInt32 frame.lineNumber, .string frame.functionName]) =
        StackFrame.ofJson? frame.toJson) ∧
    ∀ items : List Json, items.length ≠ 4 → StackFrame.ofJson? (.array items) = none := by
  exact ⟨GraphOp.faithful, OpInput.faithful, OpConsumer.faithful, Alert.faithful,
    Request.faithful, FocusOrigin.faithful, AlertTally.faithful, FileContent.faithful,
    LoadState.faithful, StackFrame.faithful, ExecutionDigest.faithful,
    ⟨GraphOp.spelledBy_toJson, fun _ _ => GraphOp.ofJson?_of_spelledBy⟩,
    ⟨OpInput.spelledBy_toJson, fun _ _ => OpInput.ofJson?_of_spelledBy⟩,
    ⟨OpConsumer.spelledBy_toJson, fun _ _ => OpConsumer.ofJson?_of_spelledBy⟩,
    ⟨Request.spelledBy_toJson, fun _ _ => Request.ofJson?_of_spelledBy⟩,
    fun _ _ => AlertTally.ofJson?_of_perm, StackFrame.ofJson?_array,
    fun _ => StackFrame.ofJson?_of_length⟩

/-- A request whose tag comes last, with the key of an op whose names are exchanged and
stand before a note; a tally whose kinds are exchanged; and an array too short for a frame. -/
theorem rearranged_values_read :
    let counts : List (AlertType × Nat) := [(.infNan, 2), (.functionRecompiles, 1)]
    let tally : AlertTally := { numAlerts := 3, perType := .ofList counts }
    Request.ofJson? (.object
        [("key", .object [("op_name", .string "add"), ("graph_id", .string "g"), ("note", .null)]),
          ("kind", .string "graph_op_info")]) =
        some (.graphOpInfo { graphId := "g", opName := "add" }) ∧
      tally.perType.toList = [(.functionRecompiles, 1), (.infNan, 2)] ∧
      AlertTally.ofJson? (.object [("num_alerts", .ofNat 3),
        ("per_type", .object [("InfNanAlert", .ofNat 2),
          ("FunctionRecompilesAlert", .ofNat 1)])]) = some tally ∧
      StackFrame.ofJson? (.array [.string "host", .string "main.py", .ofUInt32 7]) = none := by
  intro counts tally
  obtain ⟨-, -, -, -, -, -, -, -, -, -, -, -, -, -, hrequest, htally, -, hframe⟩ :=
    wire_formats_faithful
  -- the fields of the key are swapped, and there is one that it does not have
  have hkey : Spells GraphOpKey.layout.names
      (Fields.parts [("graph_id", .string "g"), ("op_name", .string "add")])
      (.object [("op_name", .string "add"), ("graph_id", .string "g"), ("note", .null)]) :=
    ⟨_, [("note", .null)], _, rfl, .swap .., forall₂_parts _, by simp [GraphOpKey.layout]⟩
  have hlisted : tally.perType.toList = [(.functionRecompiles, 1), (.infNan, 2)] := by
    decide +kernel
  refine ⟨?_, hlisted, ?_, hframe _ (by decide)⟩
  · exact hrequest.read_of_spelledBy (.graphOpInfo { graphId := "g", opName := "add" }) _
      ⟨_, [], _, rfl, .swap .., .cons ⟨rfl, rfl⟩ (.cons ⟨rfl, hkey⟩ .nil), List.forall_mem_nil _⟩
  · exact htally tally counts (hlisted ▸ .swap ..)

end TraceViewer
