import TraceViewer.Proofs.Wire.Records
import TraceViewer.Wire.GraphOp

/-!
# Ops that embed ops

Writing an op recurses on the op, reading one recurses on the depth of the value.  The two
meet at the spellings of an op (`GraphOp.SpelledBy`), which recurse on the op like the
writer and allow, at every level, the fields of a record in any order and among others.

* What is written is a spelling (`GraphOp.spelledBy_toJson`), by induction on the op.
* A spelling is read as its op by a reader that may descend as deep as the value goes
  (`GraphOp.ofJsonWithin?_of_spelledBy`), again by induction on the op.  A value inside a
  record lies less deep than the record (`depth_lt_of_lookup`), so what is left of the depth
  suffices for the embedded op, whatever the fields beside it hold.
* More depth than the value has makes no difference (`GraphOp.ofJsonWithin?_eq`), by
  induction on the depth.  A field that is skipped may hold a deeper value than all that is
  read.
-/

namespace TraceViewer

open Json

/-! ## Depths -/

namespace Json

variable {fields : Fields} {items : List Json} {name : String} {value json : Json}

theorem depth_le_depthOfItems (hitem : value ∈ items) : value.depth ≤ depthOfItems items := by
  induction items with
  | nil => cases hitem
  | cons first rest ih =>
      rw [depthOfItems]
      rcases List.mem_cons.mp hitem with rfl | hlater
      · exact Nat.le_max_left ..
      · exact Nat.le_trans (ih hlater) (Nat.le_max_right ..)

theorem depth_le_depthOfFields (hfield : (name, value) ∈ fields) :
    value.depth ≤ depthOfFields fields := by
  induction fields with
  | nil => cases hfield
  | cons first rest ih =>
      rw [depthOfFields]
      rcases List.mem_cons.mp hfield with rfl | hlater
      · exact Nat.le_max_left ..
      · exact Nat.le_trans (ih hlater) (Nat.le_max_right ..)

theorem mem_of_lookup (hfound : fields.lookup name = some value) : (name, value) ∈ fields := by
  induction fields with
  | nil => cases hfound
  | cons first rest ih =>
      rw [lookup_cons] at hfound
      split_ifs at hfound with hname
      · rw [← Option.some.inj hfound, hname]
        exact List.mem_cons_self
      · exact List.mem_cons_of_mem _ (ih hfound)

/-- The values in a record lie less deep than the record, in either of its forms. -/
theorem depth_lt_of_lookup {layout : Layout} (hrecord : json.record? layout = some fields)
    (hfound : fields.lookup name = some value) : value.depth < json.depth := by
  have hmem := mem_of_lookup hfound
  unfold record? at hrecord
  split at hrecord
  · split_ifs at hrecord
    cases hrecord
    exact Nat.lt_succ_of_le (depth_le_depthOfFields hmem)
  · split_ifs at hrecord
    cases hrecord
    exact Nat.lt_succ_of_le (depth_le_depthOfItems (List.of_mem_zip hmem).2)
  · cases hrecord

theorem list?_cons {α : Type} {read : Json → Option α} {first : Json} {others : List Json} {a : α}
    {rest : List α} (hfirst : read first = some a)
    (hrest : (array others).list? read = some rest) :
    (array (first :: others)).list? read = some (a :: rest) := by
  rw [list?] at hrest ⊢
  rw [List.mapM_cons, hfirst, hrest]
  rfl

/-- A list lies deeper than its first item, and no less deep than the list of the others. -/
theorem depth_cons_le {first : Json} {others : List Json} {bound : Nat}
    (hdepth : (array (first :: others)).depth ≤ bound + 1) :
    first.depth ≤ bound ∧ (array others).depth ≤ bound + 1 := by
  simp only [depth, depthOfItems] at hdepth ⊢
  omega

end Json

/-! ## Spellings -/

mutual

/-- Whether a value is an op, each record in it spelled in any way. -/
def GraphOp.SpelledBy : GraphOp → Json → Prop
  | ⟨opType, opName, graphIds, numOutputs, hostName, deviceName, frameIds, inputs, consumers⟩ =>
    Spells GraphOp.layout.names
      [("op_type", Eq (.string opType)), ("op_name", Eq (.string opName)),
        ("graph_ids", Eq (.ofStrings graphIds)), ("num_outputs", Eq (.ofUInt32 numOutputs)),
        ("host_name", Eq (.string hostName)), ("device_name", Eq (.ofOption .string deviceName)),
        ("stack_frame_ids", Eq (.ofStrings frameIds)), ("inputs", OpInput.ListSpelledBy inputs),
        ("consumers", OpConsumer.SlotsSpelledBy consumers)]

/-- Whether a value is a list of inputs. -/
def OpInput.ListSpelledBy : List (OpInput GraphOp) → Json → Prop
  | [], json => json = .array []
  | input :: rest, json =>
    ∃ first others, json = .array (first :: others) ∧ input.SpelledBy first ∧
      OpInput.ListSpelledBy rest (.array others)

/-- Whether a value is an input. -/
def OpInput.SpelledBy : OpInput GraphOp → Json → Prop
  | ⟨opName, outputSlot, data⟩ =>
    Spells OpInput.layout.names
      (("op_name", Eq (.string opName)) :: ("output_slot", Eq (.ofUInt32 outputSlot)) ::
        GraphOp.dataParts data)

/-- Whether a value is a list of consumers for every output. -/
def OpConsumer.SlotsSpelledBy : List (List (OpConsumer GraphOp)) → Json → Prop
  | [], json => json = .array []
  | slot :: rest, json =>
    ∃ first others, json = .array (first :: others) ∧ OpConsumer.ListSpelledBy slot first ∧
      OpConsumer.SlotsSpelledBy rest (.array others)

/-- Whether a value is a list of consumers. -/
def OpConsumer.ListSpelledBy : List (OpConsumer GraphOp) → Json → Prop
  | [], json => json = .array []
  | consumer :: rest, json =>
    ∃ first others, json = .array (first :: others) ∧ consumer.SpelledBy first ∧
      OpConsumer.ListSpelledBy rest (.array others)

/-- Whether a value is a consumer. -/
def OpConsumer.SpelledBy : OpConsumer GraphOp → Json → Prop
  | ⟨opName, inputSlot, data⟩ =>
    Spells OpConsumer.layout.names
      (("op_name", Eq (.string opName)) :: ("input_slot", Eq (.ofUInt32 inputSlot)) ::
        GraphOp.dataParts data)

/-- The part for an embedded op; there is none without one. -/
def GraphOp.dataParts : Option GraphOp → List Part
  | none => []
  | some op => [("data", op.SpelledBy)]

end

/-! ## What is written is a spelling -/

mutual

theorem GraphOp.spelledBy_toJson : ∀ op : GraphOp, op.SpelledBy op.toJson
  | ⟨_, _, _, _, _, _, _, inputs, consumers⟩ => by
    rw [GraphOp.SpelledBy, GraphOp.toJson]
    refine spells_object ?_
    simp only [List.forall₂_cons, List.forall₂_nil_right_iff, true_and, and_true]
    exact ⟨OpInput.listSpelledBy_toJson inputs, OpConsumer.slotsSpelledBy_toJson consumers⟩

theorem OpInput.listSpelledBy_toJson : ∀ inputs : List (OpInput GraphOp),
    OpInput.ListSpelledBy inputs (.array (OpInput.listToJson inputs))
  | [] => by rw [OpInput.ListSpelledBy, OpInput.listToJson]
  | input :: rest => by
    rw [OpInput.ListSpelledBy, OpInput.listToJson]
    exact ⟨_, _, rfl, OpInput.spelledBy_toJson input, OpInput.listSpelledBy_toJson rest⟩

theorem OpInput.spelledBy_toJson : ∀ input : OpInput GraphOp, input.SpelledBy input.toJson
  | ⟨_, _, data⟩ => by
    rw [OpInput.SpelledBy, OpInput.toJson]
    exact spells_object (.cons ⟨rfl, rfl⟩ (.cons ⟨rfl, rfl⟩ (GraphOp.forall₂_dataParts data)))

theorem OpConsumer.slotsSpelledBy_toJson : ∀ slots : List (List (OpConsumer GraphOp)),
    OpConsumer.SlotsSpelledBy slots (.array (OpConsumer.slotsToJson slots))
  | [] => by rw [OpConsumer.SlotsSpelledBy, OpConsumer.slotsToJson]
  | slot :: rest => by
    rw [OpConsumer.SlotsSpelledBy, OpConsumer.slotsToJson]
    exact ⟨_, _, rfl, OpConsumer.listSpelledBy_toJson slot, OpConsumer.slotsSpelledBy_toJson rest⟩

theorem OpConsumer.listSpelledBy_toJson : ∀ consumers : List (OpConsumer GraphOp),
    OpConsumer.ListSpelledBy consumers (.array (OpConsumer.listToJson consumers))
  | [] => by rw [OpConsumer.ListSpelledBy, OpConsumer.listToJson]
  | consumer :: rest => by
    rw [OpConsumer.ListSpelledBy, OpConsumer.listToJson]
    exact ⟨_, _, rfl, OpConsumer.spelledBy_toJson consumer, OpConsumer.listSpelledBy_toJson rest⟩

theorem OpConsumer.spelledBy_toJson :
    ∀ consumer : OpConsumer GraphOp, consumer.SpelledBy consumer.toJson
  | ⟨_, _, data⟩ => by
    rw [OpConsumer.SpelledBy, OpConsumer.toJson]
    exact spells_object (.cons ⟨rfl, rfl⟩ (.cons ⟨rfl, rfl⟩ (GraphOp.forall₂_dataParts data)))

theorem GraphOp.forall₂_dataParts : ∀ data : Option GraphOp,
    List.Forall₂ (fun part field => field.1 = part.1 ∧ part.2 field.2) (GraphOp.dataParts data)
      (GraphOp.dataFields data)
  | none => by
    rw [GraphOp.dataParts, GraphOp.dataFields]
    exact .nil
  | some op => by
    rw [GraphOp.dataParts, GraphOp.dataFields]
    exact .cons ⟨rfl, GraphOp.spelledBy_toJson op⟩ .nil

end

/-! ## A spelling is read as its op -/

/-- An op is written as an object, so its spelling is not `null`. -/
theorem GraphOp.option?_of_spelledBy {op : GraphOp} {json : Json} (hspelled : op.SpelledBy json)
    {read : Json → Option GraphOp} (hread : read json = some op) :
    json.option? read = some (some op) := by
  cases op
  rw [GraphOp.SpelledBy] at hspelled
  obtain ⟨_, _, others, rfl, _⟩ := hspelled
  rw [option?, hread, Option.map_some]
  exact nofun

mutual

theorem GraphOp.ofJsonWithin?_of_spelledBy : ∀ (op : GraphOp) {json : Json} {depth : Nat},
    op.SpelledBy json → json.depth ≤ depth → GraphOp.ofJsonWithin? depth json = some op
  | ⟨opType, opName, graphIds, numOutputs, hostName, deviceName, frameIds, inputs, consumers⟩,
      json, depth, hspelled, hdepth => by
    rw [GraphOp.SpelledBy] at hspelled
    obtain ⟨fields, rfl, hrecord, hlookup, -⟩ := hspelled.record? (by simp)
      (by simp [GraphOp.layout])
    simp only [List.forall_mem_cons, exists_eq_right'] at hlookup
    obtain ⟨hopType, hopName, hgraphIds, hnumOutputs, hhostName, hdeviceName, hframeIds,
      ⟨inputsJson, hinputsFound, hinputs⟩, ⟨consumersJson, hconsumersFound, hconsumers⟩, -⟩ :=
      hlookup
    cases depth with
    | zero => cases hdepth
    | succ depth =>
        have hinputsDepth := depth_lt_of_lookup hrecord hinputsFound
        have hconsumersDepth := depth_lt_of_lookup hrecord hconsumersFound
        have hreadInputs := OpInput.list?_of_listSpelledBy inputs hinputs
          (show inputsJson.depth ≤ depth + 1 by omega)
        have hreadConsumers := OpConsumer.list?_of_slotsSpelledBy consumers hconsumers
          (show consumersJson.depth ≤ depth + 1 by omega)
        simp [GraphOp.ofJsonWithin?, hrecord, Fields.required, Fields.nullable, Fields.defaulted,
          hopType, hopName, hgraphIds, hnumOutputs, hhostName, hdeviceName, hframeIds,
          hinputsFound, hconsumersFound, hreadInputs, hreadConsumers]

theorem OpInput.list?_of_listSpelledBy : ∀ (inputs : List (OpInput GraphOp)) {json : Json}
    {depth : Nat}, OpInput.ListSpelledBy inputs json → json.depth ≤ depth + 1 →
      json.list? (OpInput.ofJsonWith? (GraphOp.ofJsonWithin? depth)) = some inputs
  | [], json, depth, hspelled, _ => by
    rw [OpInput.ListSpelledBy] at hspelled
    rw [hspelled]
    rfl
  | input :: rest, json, depth, hspelled, hdepth => by
    rw [OpInput.ListSpelledBy] at hspelled
    obtain ⟨first, others, rfl, hfirst, hrest⟩ := hspelled
    obtain ⟨hfirstDepth, hrestDepth⟩ := depth_cons_le hdepth
    exact list?_cons (OpInput.ofJsonWith?_of_spelledBy input hfirst hfirstDepth)
      (OpInput.list?_of_listSpelledBy rest hrest hrestDepth)

/-- The record of an edge is read as its name, its slot and its data, whatever the field of the
slot is called. -/
theorem GraphOp.edge_of_spells : ∀ (data : Option GraphOp) {layout : Layout} {slotName : String}
    {opName : String} {slot : UInt32} {json : Json} {depth : Nat},
    layout.names = ["op_name", slotName, "data"] → slotName ≠ "op_name" → slotName ≠ "data" →
      Spells layout.names
        (("op_name", Eq (.string opName)) :: (slotName, Eq (.ofUInt32 slot)) ::
          GraphOp.dataParts data) json →
      json.depth ≤ depth →
        ∃ fields, json.record? layout = some fields ∧
          fields.required "op_name" string? = some opName ∧
          fields.required slotName uint32? = some slot ∧
          fields.nullable "data" (GraphOp.ofJsonWithin? depth) = some data
  | none, layout, slotName, opName, slot, json, depth, hnames, hfirst, hlast, hspells, _ => by
    rw [GraphOp.dataParts] at hspells
    obtain ⟨fields, -, hrecord, hlookup, habsent⟩ := hspells.record?
      (by simpa using hfirst.symm) (by simp [hnames])
    simp only [List.forall_mem_cons, exists_eq_right'] at hlookup
    -- a neighbour without data is spelled without the field
    have hdata : fields.lookup "data" = none :=
      habsent "data" (by simp [hnames]) (by simpa using hlast.symm)
    exact ⟨fields, hrecord, by simp [Fields.required, hlookup],
      by simp [Fields.required, hlookup], by simp [Fields.nullable, hdata]⟩
  | some op, layout, slotName, opName, slot, json, depth, hnames, hfirst, hlast, hspells,
      hdepth => by
    rw [GraphOp.dataParts] at hspells
    obtain ⟨fields, -, hrecord, hlookup, -⟩ := hspells.record?
      (by simpa using ⟨hfirst.symm, hlast⟩) (by simp [hnames])
    simp only [List.forall_mem_cons, exists_eq_right'] at hlookup
    obtain ⟨hopName, hslot, ⟨value, hfound, hop⟩, -⟩ := hlookup
    -- the embedded op lies less deep than the edge, so the reader may still descend into it
    have hvalueDepth := depth_lt_of_lookup hrecord hfound
    have hdata := GraphOp.option?_of_spelledBy hop
      (GraphOp.ofJsonWithin?_of_spelledBy op hop (show value.depth ≤ depth by omega))
    exact ⟨fields, hrecord, by simp [Fields.required, hopName], by simp [Fields.required, hslot],
      by simp [Fields.nullable, hfound, hdata]⟩

theorem OpInput.ofJsonWith?_of_spelledBy : ∀ (input : OpInput GraphOp) {json : Json}
    {depth : Nat}, input.SpelledBy json → json.depth ≤ depth →
      OpInput.ofJsonWith? (GraphOp.ofJsonWithin? depth) json = some input
  | ⟨opName, outputSlot, data⟩, json, depth, hspelled, hdepth => by
    rw [OpInput.SpelledBy] at hspelled
    obtain ⟨fields, hrecord, hname, hslot, hdata⟩ :=
      GraphOp.edge_of_spells data rfl (by decide) (by decide) hspelled hdepth
    simp [OpInput.ofJsonWith?, hrecord, hname, hslot, hdata]

theorem OpConsumer.list?_of_slotsSpelledBy :
    ∀ (slots : List (List (OpConsumer GraphOp))) {json : Json} {depth : Nat},
      OpConsumer.SlotsSpelledBy slots json → json.depth ≤ depth + 1 →
        json.list? (list? (OpConsumer.ofJsonWith? (GraphOp.ofJsonWithin? depth))) = some slots
  | [], json, depth, hspelled, _ => by
    rw [OpConsumer.SlotsSpelledBy] at hspelled
    rw [hspelled]
    rfl
  | slot :: rest, json, depth, hspelled, hdepth => by
    rw [OpConsumer.SlotsSpelledBy] at hspelled
    obtain ⟨first, others, rfl, hfirst, hrest⟩ := hspelled
    obtain ⟨hfirstDepth, hrestDepth⟩ := depth_cons_le hdepth
    exact list?_cons (OpConsumer.list?_of_listSpelledBy slot hfirst
        (Nat.le_succ_of_le hfirstDepth))
      (OpConsumer.list?_of_slotsSpelledBy rest hrest hrestDepth)

theorem OpConsumer.list?_of_listSpelledBy : ∀ (consumers : List (OpConsumer GraphOp))
    {json : Json} {depth : Nat}, OpConsumer.ListSpelledBy consumers json →
      json.depth ≤ depth + 1 →
        json.list? (OpConsumer.ofJsonWith? (GraphOp.ofJsonWithin? depth)) = some consumers
  | [], json, depth, hspelled, _ => by
    rw [OpConsumer.ListSpelledBy] at hspelled
    rw [hspelled]
    rfl
  | consumer :: rest, json, depth, hspelled, hdepth => by
    rw [OpConsumer.ListSpelledBy] at hspelled
    obtain ⟨first, others, rfl, hfirst, hrest⟩ := hspelled
    obtain ⟨hfirstDepth, hrestDepth⟩ := depth_cons_le hdepth
    exact list?_cons (OpConsumer.ofJsonWith?_of_spelledBy consumer hfirst hfirstDepth)
      (OpConsumer.list?_of_listSpelledBy rest hrest hrestDepth)

theorem OpConsumer.ofJsonWith?_of_spelledBy : ∀ (consumer : OpConsumer GraphOp) {json : Json}
    {depth : Nat}, consumer.SpelledBy json → json.depth ≤ depth →
      OpConsumer.ofJsonWith? (GraphOp.ofJsonWithin? depth) json = some consumer
  | ⟨opName, inputSlot, data⟩, json, depth, hspelled, hdepth => by
    rw [OpConsumer.SpelledBy] at hspelled
    obtain ⟨fields, hrecord, hname, hslot, hdata⟩ :=
      GraphOp.edge_of_spells data rfl (by decide) (by decide) hspelled hdepth
    simp [OpConsumer.ofJsonWith?, hrecord, hname, hslot, hdata]

end

/-! ## Any depth that suffices -/

namespace Json

variable {α : Type} {read other : Json → Option α} {fields : Fields} {name : String} {json : Json}

/-- A list is read alike by readers that agree on what lies less deep. -/
theorem list?_congr (hread : ∀ value : Json, value.depth < json.depth → read value = other value) :
    json.list? read = json.list? other := by
  unfold list?
  split
  · next items =>
      have hitems : ∀ item ∈ items, read item = other item :=
        fun item hitem => hread item (Nat.lt_succ_of_le (depth_le_depthOfItems hitem))
      clear hread
      induction items with
      | nil => rfl
      | cons first rest ih =>
          obtain ⟨hfirst, hrest⟩ := List.forall_mem_cons.mp hitems
          rw [List.mapM_cons, List.mapM_cons, hfirst, ih hrest]
  · rfl

theorem Fields.nullable_congr
    (hread : ∀ value, fields.lookup name = some value → read value = other value) :
    fields.nullable name read = fields.nullable name other := by
  unfold Fields.nullable
  split
  · rfl
  · next value hfound =>
      unfold option?
      split
      · rfl
      · rw [hread value hfound]

theorem Fields.defaulted_congr {default : α}
    (hread : ∀ value, fields.lookup name = some value → read value = other value) :
    fields.defaulted name read default = fields.defaulted name other default := by
  unfold Fields.defaulted
  split
  · rfl
  · next value hfound => exact hread value hfound

end Json

section Edges

variable {Op : Type} {read other : Json → Option Op} {json : Json}

theorem OpInput.ofJsonWith?_congr
    (hread : ∀ value : Json, value.depth < json.depth → read value = other value) :
    ofJsonWith? read json = ofJsonWith? other json := by
  unfold ofJsonWith?
  cases hrecord : json.record? layout with
  | none => rfl
  | some fields =>
      simp only [Option.bind_eq_bind, Option.bind_some]
      rw [Fields.nullable_congr fun value hfound => hread value (depth_lt_of_lookup hrecord hfound)]

theorem OpConsumer.ofJsonWith?_congr
    (hread : ∀ value : Json, value.depth < json.depth → read value = other value) :
    ofJsonWith? read json = ofJsonWith? other json := by
  unfold ofJsonWith?
  cases hrecord : json.record? layout with
  | none => rfl
  | some fields =>
      simp only [Option.bind_eq_bind, Option.bind_some]
      rw [Fields.nullable_congr fun value hfound => hread value (depth_lt_of_lookup hrecord hfound)]

theorem OpInput.recordReader (read : Json → Option Op) :
    RecordReader layout (ofJsonWith? read) :=
  .of_bind fun hlookup => by
    simp only [layout, List.forall_mem_cons] at hlookup
    simp only [Fields.required, Fields.nullable, hlookup]

theorem OpConsumer.recordReader (read : Json → Option Op) :
    RecordReader layout (ofJsonWith? read) :=
  .of_bind fun hlookup => by
    simp only [layout, List.forall_mem_cons] at hlookup
    simp only [Fields.required, Fields.nullable, hlookup]

end Edges

namespace GraphOp

/-- A value without depth is no op. -/
theorem ofJsonWithin?_of_depth_eq_zero {json : Json} (hdepth : json.depth = 0) (depth : Nat) :
    ofJsonWithin? depth json = none := by
  have hrecord : json.record? layout = none := by
    cases json with
    | array | object => cases hdepth
    | _ => rfl
  cases depth with
  | zero => rfl
  | succ depth => rw [ofJsonWithin?, hrecord, Option.bind_eq_bind, Option.bind_none]

/-- All readers that may descend as deep as a value goes agree on it. -/
theorem ofJsonWithin?_eq {first second : Nat} {json : Json} (hfirst : json.depth ≤ first)
    (hsecond : json.depth ≤ second) : ofJsonWithin? first json = ofJsonWithin? second json := by
  induction first generalizing second json with
  | zero =>
      have hdepth := Nat.le_zero.mp hfirst
      rw [ofJsonWithin?_of_depth_eq_zero hdepth, ofJsonWithin?_of_depth_eq_zero hdepth]
  | succ first ih =>
      cases second with
      | zero =>
          have hdepth := Nat.le_zero.mp hsecond
          rw [ofJsonWithin?_of_depth_eq_zero hdepth, ofJsonWithin?_of_depth_eq_zero hdepth]
      | succ second =>
          -- both readers may descend one level less, into values that are less deep
          have hinside : ∀ {value : Json}, value.depth < json.depth →
              ofJsonWithin? first value = ofJsonWithin? second value :=
            fun hvalue => ih (by omega) (by omega)
          rw [ofJsonWithin?, ofJsonWithin?]
          cases hrecord : json.record? layout with
          | none => rw [Option.bind_eq_bind, Option.bind_none, Option.bind_none]
          | some fields =>
              have hbelow : ∀ {name value}, fields.lookup name = some value →
                  value.depth < json.depth := depth_lt_of_lookup hrecord
              have hinputs : fields.defaulted "inputs"
                    (list? (OpInput.ofJsonWith? (ofJsonWithin? first))) [] =
                  fields.defaulted "inputs"
                    (list? (OpInput.ofJsonWith? (ofJsonWithin? second))) [] :=
                Fields.defaulted_congr fun value hfound => list?_congr fun edge hedge =>
                  OpInput.ofJsonWith?_congr fun op hop =>
                    hinside (Nat.lt_trans hop (Nat.lt_trans hedge (hbelow hfound)))
              have hconsumers : fields.defaulted "consumers"
                    (list? (list? (OpConsumer.ofJsonWith? (ofJsonWithin? first)))) [] =
                  fields.defaulted "consumers"
                    (list? (list? (OpConsumer.ofJsonWith? (ofJsonWithin? second)))) [] :=
                Fields.defaulted_congr fun value hfound => list?_congr fun slot hslot =>
                  list?_congr fun edge hedge => OpConsumer.ofJsonWith?_congr fun op hop =>
                    hinside (Nat.lt_trans hop
                      (Nat.lt_trans hedge (Nat.lt_trans hslot (hbelow hfound))))
              change Option.bind (some fields) _ = Option.bind (some fields) _
              rw [Option.bind_some, Option.bind_some, hinputs, hconsumers]

theorem ofJson?_eq {json : Json} {depth : Nat} (hdepth : json.depth ≤ depth) :
    ofJson? json = ofJsonWithin? depth json :=
  ofJsonWithin?_eq (Nat.le_refl _) hdepth

theorem recordReader (depth : Nat) : RecordReader layout (ofJsonWithin? (depth + 1)) where
  refuses hrefused := by rw [ofJsonWithin?, hrefused, Option.bind_eq_bind, Option.bind_none]
  congr hrecord hother hlookup := by
    simp only [layout, List.forall_mem_cons] at hlookup
    rw [ofJsonWithin?, ofJsonWithin?, hrecord, hother, Option.bind_eq_bind, Option.bind_some,
      Option.bind_some]
    simp only [Fields.required, Fields.nullable, Fields.defaulted, hlookup]

/-- Two objects are read alike if every reader that may descend far enough reads them alike. -/
theorem ofJson?_object_congr {fields others : Fields}
    (hread : ∀ depth, ofJsonWithin? (depth + 1) (.object fields) =
      ofJsonWithin? (depth + 1) (.object others)) :
    ofJson? (.object fields) = ofJson? (.object others) := by
  have hfields : (object fields).depth ≤ max (depthOfFields fields) (depthOfFields others) + 1 :=
    Nat.succ_le_succ (Nat.le_max_left ..)
  have hothers : (object others).depth ≤ max (depthOfFields fields) (depthOfFields others) + 1 :=
    Nat.succ_le_succ (Nat.le_max_right ..)
  rw [ofJson?_eq hfields, ofJson?_eq hothers, hread]

theorem ofJson?_of_spelledBy {op : GraphOp} {json : Json} (hspelled : op.SpelledBy json) :
    ofJson? json = some op :=
  op.ofJsonWithin?_of_spelledBy hspelled (Nat.le_refl _)

theorem faithful : Faithful toJson ofJson? fun _ => layout.names where
  read_write := fun op => ofJson?_of_spelledBy op.spelledBy_toJson
  unordered := fun _ _ hperm =>
    ofJson?_object_congr fun depth => (recordReader depth).unordered hperm
  ignores := fun _ _ value hname =>
    ofJson?_object_congr fun depth => (recordReader depth).ignores value hname

end GraphOp

namespace OpInput

theorem ofJson?_of_spelledBy {input : OpInput GraphOp} {json : Json}
    (hspelled : input.SpelledBy json) : ofJson? json = some input := by
  rw [← input.ofJsonWith?_of_spelledBy hspelled (Nat.le_refl _)]
  exact ofJsonWith?_congr fun value hvalue => GraphOp.ofJson?_eq (Nat.le_of_lt hvalue)

theorem faithful : Faithful OpInput.toJson ofJson? fun _ => layout.names :=
  (recordReader GraphOp.ofJson?).faithful fun input => ofJson?_of_spelledBy input.spelledBy_toJson

end OpInput

namespace OpConsumer

theorem ofJson?_of_spelledBy {consumer : OpConsumer GraphOp} {json : Json}
    (hspelled : consumer.SpelledBy json) : ofJson? json = some consumer := by
  rw [← consumer.ofJsonWith?_of_spelledBy hspelled (Nat.le_refl _)]
  exact ofJsonWith?_congr fun value hvalue => GraphOp.ofJson?_eq (Nat.le_of_lt hvalue)

theorem faithful : Faithful OpConsumer.toJson ofJson? fun _ => layout.names :=
  (recordReader GraphOp.ofJson?).faithful fun consumer =>
    ofJson?_of_spelledBy consumer.spelledBy_toJson

end OpConsumer

end TraceViewer
