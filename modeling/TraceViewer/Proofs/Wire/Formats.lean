import TraceViewer.Proofs.Wire.Records
import TraceViewer.Wire.Fetch

/-!
# Flat records and unions

Every format but that of the ops is flat: a record of plain values, or a union of such
records.  For a record it suffices that its reader is a `RecordReader` and that each field
is read back; for a union, that the reader of each case is one and that the tags name the
cases.

The counts of an `AlertTally` are a map, not a record.  Its entries may stand in any order
as long as no kind occurs twice (`AlertTally.read_perType_of_perm`).
-/

namespace TraceViewer

open Json

/-! ## Records -/

namespace LoadPhase

@[simp]
theorem ofJson?_toJson (phase : LoadPhase) : ofJson? phase.toJson = some phase := by
  cases phase <;> rfl

end LoadPhase

namespace LoadState

theorem recordReader : RecordReader layout ofJson? :=
  .of_bind fun hlookup => by
    simp only [layout, List.forall_mem_cons] at hlookup
    simp only [Fields.required, Fields.nullable, hlookup]

theorem faithful : Faithful toJson ofJson? fun _ => layout.names :=
  recordReader.faithful fun state => by
    simp [ofJson?, toJson, record?, layout, Fields.required, Fields.nullable, lookup_cons]

end LoadState

namespace FileContent

theorem recordReader : RecordReader layout ofJson? :=
  .of_bind fun hlookup => by
    simp only [layout, List.forall_mem_cons] at hlookup
    simp only [Fields.required, Fields.nullable, hlookup]

theorem faithful : Faithful toJson ofJson? fun _ => layout.names :=
  recordReader.faithful fun content => by
    simp [ofJson?, toJson, record?, layout, Fields.required, Fields.nullable, lookup_cons]

end FileContent

namespace SourceFile

theorem recordReader : RecordReader layout ofJson? :=
  .of_bind fun hlookup => by
    simp only [layout, List.forall_mem_cons] at hlookup
    simp only [Fields.required, hlookup]

theorem faithful : Faithful toJson ofJson? fun _ => layout.names :=
  recordReader.faithful fun file => by
    simp [ofJson?, toJson, record?, layout, Fields.required, lookup_cons]

end SourceFile

namespace StackFrame

theorem recordReader : RecordReader layout ofJson? :=
  .of_bind fun hlookup => by
    simp only [layout, List.forall_mem_cons] at hlookup
    simp only [Fields.required, hlookup]

theorem faithful : Faithful toJson ofJson? fun _ => layout.names :=
  recordReader.faithful fun frame => by
    simp [ofJson?, toJson, record?, layout, Fields.required, lookup_cons]

/-- The array of the four fields is read as the object is. -/
theorem ofJson?_array (frame : StackFrame) :
    ofJson? (.array [.string frame.hostName, .string frame.filePath, .ofUInt32 frame.lineNumber,
      .string frame.functionName]) = ofJson? frame.toJson := by
  rw [faithful.read_write]
  simp [ofJson?, record?, layout, Fields.required, lookup_cons]

/-- An array of another length is no frame. -/
theorem ofJson?_of_length {items : List Json} (hlength : items.length ≠ 4) :
    ofJson? (.array items) = none := by
  refine recordReader.refuses ?_
  rw [record?, if_neg]
  simp only [layout, List.length_cons, List.length_nil]
  omega

end StackFrame

namespace ExecutionDigest

theorem recordReader : RecordReader layout ofJson? :=
  .of_bind fun hlookup => by
    simp only [layout, List.forall_mem_cons] at hlookup
    simp only [Fields.required, Fields.defaulted, hlookup]

theorem faithful : Faithful toJson ofJson? fun _ => layout.names :=
  recordReader.faithful fun digest => by
    simp [ofJson?, toJson, record?, layout, Fields.required, Fields.defaulted, lookup_cons]

end ExecutionDigest

namespace GraphOpKey

theorem recordReader : RecordReader layout ofJson? :=
  .of_bind fun hlookup => by
    simp only [layout, List.forall_mem_cons] at hlookup
    simp only [Fields.required, hlookup]

theorem faithful : Faithful toJson ofJson? fun _ => layout.names :=
  recordReader.faithful fun key => by
    simp [ofJson?, toJson, record?, layout, Fields.required, lookup_cons]

end GraphOpKey

/-! ## Alerts -/

namespace FunctionRecompilesAlert

theorem recordReader : RecordReader layout ofJson? :=
  .of_bind fun hlookup => by
    simp only [layout, List.forall_mem_cons] at hlookup
    simp only [Fields.required, hlookup]

theorem faithful : Faithful toJson ofJson? fun _ => layout.names :=
  recordReader.faithful fun alert => by
    simp [ofJson?, toJson, toFields, record?, layout, Fields.required, lookup_cons]

end FunctionRecompilesAlert

namespace InfNanAlert

theorem recordReader : RecordReader layout ofJson? :=
  .of_bind fun hlookup => by
    simp only [layout, List.forall_mem_cons] at hlookup
    simp only [Fields.required, Fields.nullable, hlookup]

theorem faithful : Faithful toJson ofJson? fun _ => layout.names :=
  recordReader.faithful fun alert => by
    simp [ofJson?, toJson, toFields, record?, layout, Fields.required, Fields.nullable,
      lookup_cons]

end InfNanAlert

namespace TensorShapeAlert

theorem recordReader : RecordReader layout ofJson? :=
  .of_bind fun hlookup => by
    simp only [layout, List.forall_mem_cons] at hlookup
    simp only [Fields.required, Fields.nullable, hlookup]

theorem faithful : Faithful toJson ofJson? fun _ => layout.names :=
  recordReader.faithful fun alert => by
    simp [ofJson?, toJson, toFields, record?, layout, Fields.required, Fields.nullable,
      lookup_cons]

end TensorShapeAlert

namespace Alert

/-- The alert of the kind that a tag names. -/
def ofCase? (tag content : Json) : Option Alert := do
  match ← AlertType.ofTag? tag with
  | .functionRecompiles =>
    return .functionRecompiles (← FunctionRecompilesAlert.ofJson? content)
  | .infNan => return .infNan (← InfNanAlert.ofJson? content)
  | .tensorShape => return .tensorShape (← TensorShapeAlert.ofJson? content)

/-- The names of the fields of the kind that a tag names. -/
def caseNames (tag : Json) : List String :=
  match AlertType.ofTag? tag with
  | some .functionRecompiles => FunctionRecompilesAlert.layout.names
  | some .infNan => InfNanAlert.layout.names
  | some .tensorShape => TensorShapeAlert.layout.names
  | none => []

theorem ofJson?_eq :
    ofJson? = fun json => (json.union? "alert_type").bind fun (tag, content) =>
      ofCase? tag content := rfl

theorem unordered_ofCase? (tag : Json) : Unordered (ofCase? tag) := by
  unfold ofCase?
  rcases AlertType.ofTag? tag with - | kind
  · exact fun _ _ _ => rfl
  · cases kind with
    | functionRecompiles => exact FunctionRecompilesAlert.recordReader.unordered.bind _
    | infNan => exact InfNanAlert.recordReader.unordered.bind _
    | tensorShape => exact TensorShapeAlert.recordReader.unordered.bind _

theorem ignores_ofCase? (tag : Json) : Ignores (fun _ => caseNames tag) (ofCase? tag) := by
  unfold ofCase? caseNames
  rcases AlertType.ofTag? tag with - | kind
  · exact fun _ _ _ _ => rfl
  · cases kind with
    | functionRecompiles => exact FunctionRecompilesAlert.recordReader.ignores.bind _
    | infNan => exact InfNanAlert.recordReader.ignores.bind _
    | tensorShape => exact TensorShapeAlert.recordReader.ignores.bind _

theorem ofTag?_toJson (kind : AlertType) : AlertType.ofTag? kind.toJson = some kind := by
  simp [AlertType.ofTag?, AlertType.toJson]

theorem ofJson?_toJson (alert : Alert) : ofJson? alert.toJson = some alert := by
  have hnames : ∀ field ∈ alert.toFields, field.1 ≠ "alert_type" := by
    cases alert <;> simp [toFields, FunctionRecompilesAlert.toFields, InfNanAlert.toFields,
      TensorShapeAlert.toFields]
  rw [ofJson?_eq, toJson]
  simp only [union?_cons_tag hnames, Option.bind_some, ofCase?, ofTag?_toJson]
  cases alert with
  | functionRecompiles alert =>
      exact congrArg (Option.bind · _) (FunctionRecompilesAlert.faithful.read_write alert)
  | infNan alert => exact congrArg (Option.bind · _) (InfNanAlert.faithful.read_write alert)
  | tensorShape alert =>
      exact congrArg (Option.bind · _) (TensorShapeAlert.faithful.read_write alert)

theorem faithful : Faithful toJson ofJson? (unionNames "alert_type" caseNames) where
  read_write := ofJson?_toJson
  unordered := unordered_union unordered_ofCase?
  ignores := ignores_union ignores_ofCase?

end Alert

namespace AlertTally

theorem recordReader : RecordReader layout ofJson? :=
  .of_bind fun hlookup => by
    simp only [layout, List.forall_mem_cons] at hlookup
    simp only [Fields.required, hlookup]

/-- A map is made of its entries, in whatever order they are listed. -/
theorem ofList_of_perm {perType : Std.ExtTreeMap AlertType Nat} {counts : List (AlertType × Nat)}
    (hperm : counts.Perm perType.toList) : Std.ExtTreeMap.ofList counts = perType := by
  -- no two counts are of one type, so their order does not matter
  have hdistinct : counts.Pairwise fun a b => ¬ compare a.1 b.1 = .eq := by
    refine (hperm.pairwise_iff fun hne => ?_).mpr Std.ExtTreeMap.distinct_keys_toList
    rwa [Std.OrientedCmp.eq_comm]
  refine Std.ExtTreeMap.ext_getElem? fun kind => ?_
  match hcount : perType[kind]? with
  | some count =>
      refine Std.ExtTreeMap.getElem?_ofList_of_mem Std.ReflCmp.compare_self hdistinct ?_
      exact hperm.mem_iff.mpr (Std.ExtTreeMap.mem_toList_iff_getElem?_eq_some.mpr hcount)
  | none =>
      refine Std.ExtTreeMap.getElem?_ofList_of_contains_eq_false ?_
      refine Bool.eq_false_iff.mpr fun hcontains => ?_
      obtain ⟨entry, hentry, rfl⟩ := List.mem_map.mp (List.contains_iff_mem.mp hcontains)
      rw [Std.ExtTreeMap.mem_toList_iff_getElem?_eq_some.mp (hperm.mem_iff.mp hentry)] at hcount
      cases hcount

/-- The counts of the kinds are read back in whatever order they stand. -/
theorem read_perType_of_perm {perType : Std.ExtTreeMap AlertType Nat}
    {counts : List (AlertType × Nat)} (hperm : counts.Perm perType.toList) :
    perTypeOfJson? (.object (counts.map fun (kind, count) => (kind.name, .ofNat count))) =
      some perType := by
  have hentries : (object (counts.map fun entry => (entry.1.name, ofNat entry.2))).entries? nat? =
      some (counts.map fun entry => (entry.1.name, entry.2)) :=
    mapM_map (fun entry => by simp) counts
  have hcounts : (counts.map fun entry => (entry.1.name, entry.2)).mapM
      (fun entry => (AlertType.ofName? entry.1).map (·, entry.2)) = some (counts.map id) :=
    mapM_map (fun entry => by simp) counts
  rw [List.map_id] at hcounts
  rw [← ofList_of_perm hperm]
  change ((object (counts.map fun entry => (entry.1.name, ofNat entry.2))).entries? nat?).bind _ = _
  rw [hentries, Option.bind_some]
  exact congrArg (Option.bind · _) hcounts

theorem ofJson?_of_perm {tally : AlertTally} {counts : List (AlertType × Nat)}
    (hperm : counts.Perm tally.perType.toList) :
    ofJson? (.object [("num_alerts", .ofNat tally.numAlerts),
      ("per_type", .object (counts.map fun (kind, count) => (kind.name, .ofNat count)))]) =
        some tally := by
  simp [ofJson?, record?, layout, Fields.required, lookup_cons, read_perType_of_perm hperm]

theorem faithful : Faithful toJson ofJson? fun _ => layout.names :=
  recordReader.faithful fun _ => ofJson?_of_perm (List.Perm.refl _)

end AlertTally

/-! ## Focus -/

namespace FocusOrigin

/-- The origin of the kind that a tag names. -/
def ofCase? (tag content : Json) : Option FocusOrigin := do
  match ← tag.string?.bind CodeLocation.ofName? with
  | .execution =>
    let fields ← content.record? { names := ["index"], least := 1 }
    return .execution (← fields.required "index" nat?)
  | .graphOpCreation => return .graphOpCreation (← GraphOpKey.ofJson? content)

/-- The names of the fields of the kind that a tag names. -/
def caseNames (tag : Json) : List String :=
  match tag.string?.bind CodeLocation.ofName? with
  | some .execution => ["index"]
  | some .graphOpCreation => GraphOpKey.layout.names
  | none => []

theorem ofJson?_eq :
    ofJson? = fun json => (json.union? "kind").bind fun (tag, content) => ofCase? tag content :=
  rfl

theorem recordReader_execution :
    RecordReader { names := ["index"], least := 1 } fun content : Json => do
      let fields ← content.record? { names := ["index"], least := 1 }
      return FocusOrigin.execution (← fields.required "index" nat?) :=
  .of_bind fun hlookup => by
    simp only [List.forall_mem_cons] at hlookup
    simp only [Fields.required, hlookup]

theorem unordered_ofCase? (tag : Json) : Unordered (ofCase? tag) := by
  unfold ofCase?
  rcases tag.string?.bind CodeLocation.ofName? with - | kind
  · exact fun _ _ _ => rfl
  · cases kind with
    | execution => exact recordReader_execution.unordered
    | graphOpCreation => exact GraphOpKey.recordReader.unordered.bind _

theorem ignores_ofCase? (tag : Json) : Ignores (fun _ => caseNames tag) (ofCase? tag) := by
  unfold ofCase? caseNames
  rcases tag.string?.bind CodeLocation.ofName? with - | kind
  · exact fun _ _ _ _ => rfl
  · cases kind with
    | execution => exact recordReader_execution.ignores
    | graphOpCreation => exact GraphOpKey.recordReader.ignores.bind _

theorem ofJson?_toJson (origin : FocusOrigin) : ofJson? origin.toJson = some origin := by
  cases origin with
  | execution index =>
      have hunion : (FocusOrigin.execution index).toJson.union? "kind" =
          some (CodeLocation.execution.toJson, .object [("index", .ofNat index)]) :=
        union?_cons_tag (by simp only [List.forall_mem_singleton]; decide)
      have hrecord : (Json.object [("index", .ofNat index)]).record?
          { names := ["index"], least := 1 } = some [("index", .ofNat index)] := by
        simp [record?]
      have hfound : Fields.required [("index", .ofNat index)] "index" nat? = some index := by
        simp [Fields.required]
      simp only [ofJson?_eq, hunion, Option.bind_some]
      change (do
        let fields ← (Json.object [("index", .ofNat index)]).record?
          { names := ["index"], least := 1 }
        return FocusOrigin.execution (← fields.required "index" nat?)) = _
      simp only [hrecord, hfound, Option.bind_eq_bind, Option.bind_some]
      rfl
  | graphOpCreation key =>
      have hunion : (FocusOrigin.graphOpCreation key).toJson.union? "kind" =
          some (CodeLocation.graphOpCreation.toJson, key.toJson) :=
        union?_cons_tag (by simp only [List.forall_mem_cons]; decide)
      simp only [ofJson?_eq, hunion, Option.bind_some]
      change (do return FocusOrigin.graphOpCreation (← GraphOpKey.ofJson? key.toJson)) = _
      simp only [GraphOpKey.faithful.read_write, Option.bind_eq_bind, Option.bind_some]
      rfl

theorem faithful : Faithful toJson ofJson? (unionNames "kind" caseNames) where
  read_write := ofJson?_toJson
  unordered := unordered_union unordered_ofCase?
  ignores := ignores_union ignores_ofCase?

end FocusOrigin

/-! ## Requests -/

/-- A case without fields is read from whatever an object has. -/
theorem reads_unit? {α : Type} (f : Unit → α) (known : Fields → List String) :
    (Unordered fun content => content.unit?.map f) ∧
      Ignores known fun content => content.unit?.map f :=
  ⟨fun _ _ _ => rfl, fun _ _ _ _ => rfl⟩

namespace Request

/-- The names of the fields of the request with a given tag. -/
def fieldNames : String → List String
  | "page" => ["sequence", "begin", "end"]
  | "execution_data" => ["begin", "end"]
  | "stack_frames" => ["ids"]
  | "graph_op_info" => ["key"]
  | "source_file" => ["file"]
  | "alerts_of_type" => ["alert_type", "begin", "end"]
  | _ => []

/-- The request with the tag that a value is. -/
def ofCase? (tag content : Json) : Option Request := do
  ofContent? (← tag.string?) content

/-- The names of the fields of the request with the tag that a value is. -/
def caseNames (tag : Json) : List String := tag.string?.elim [] fieldNames

theorem ofJson?_eq :
    ofJson? = fun json => (json.union? "kind").bind fun (tag, content) => ofCase? tag content :=
  rfl

theorem reads_ofContent? (tag : String) :
    Unordered (ofContent? tag) ∧ Ignores (fun _ => fieldNames tag) (ofContent? tag) := by
  unfold ofContent?
  split
  case h_1 | h_2 | h_7 | h_9 => exact reads_unit? _ _
  case h_11 => exact ⟨fun _ _ _ => rfl, fun _ _ _ _ => rfl⟩
  all_goals
    refine RecordReader.reads (.of_bind fun hlookup => ?_)
    simp only [List.forall_mem_cons] at hlookup
    simp only [Interval.ofFields?, Fields.required, hlookup]

theorem unordered_ofCase? (tag : Json) : Unordered (ofCase? tag) := by
  unfold ofCase?
  rcases tag.string? with - | tag
  · exact fun _ _ _ => rfl
  · exact (reads_ofContent? tag).1

theorem ignores_ofCase? (tag : Json) : Ignores (fun _ => caseNames tag) (ofCase? tag) := by
  unfold ofCase? caseNames
  rcases tag.string? with - | tag
  · exact fun _ _ _ _ => rfl
  · exact (reads_ofContent? tag).2

theorem ofEnclosedJson?_toJson_sequence (kind : SequenceKind) :
    SequenceKind.ofEnclosedJson? kind.toJson = some kind := by
  cases kind <;> rfl

theorem ofEnclosedJson?_toJson_alertType (kind : AlertType) :
    AlertType.ofEnclosedJson? kind.toJson = some kind := by
  cases kind <;> rfl

/-- The parts of a request besides its tag.  Records in its fields may themselves be spelled
in any way. -/
def parts : Request → List Part
  | .graphOpInfo key =>
    [("key", Spells GraphOpKey.layout.names
      (Fields.parts [("graph_id", .string key.graphId), ("op_name", .string key.opName)]))]
  | .sourceFile file =>
    [("file", Spells SourceFile.layout.names
      (Fields.parts [("host_name", .string file.hostName), ("file_path", .string file.filePath)]))]
  | request => Fields.parts request.toFields

/-- Whether a value is a request, its fields and those of the record in it standing in any
order and among any others. -/
def SpelledBy (request : Request) : Json → Prop :=
  Spells ("kind" :: fieldNames request.tag)
    (("kind", Eq (.string request.tag)) :: request.parts)

theorem map_fst_parts (request : Request) :
    request.parts.map (·.1) = fieldNames request.tag := by
  cases request <;> rfl

theorem nodup_fieldNames (tag : String) : (fieldNames tag).Nodup := by
  unfold fieldNames
  split <;> decide

/-- The fields of a spelling, under the layout of its case. -/
theorem exists_record {request : Request} {content : Json}
    (hcontent : Spells (fieldNames request.tag) request.parts content) (least : Nat) :
    ∃ fields, content.record? { names := fieldNames request.tag, least } = some fields ∧
      ∀ part ∈ request.parts, ∃ value, fields.lookup part.1 = some value ∧ part.2 value := by
  have hknown : ∀ part ∈ request.parts, part.1 ∈ fieldNames request.tag := by
    intro part hpart
    rw [← map_fst_parts]
    exact List.mem_map_of_mem hpart
  let layout : Layout := { names := fieldNames request.tag, least }
  have hspells : Spells layout.names request.parts content := hcontent
  obtain ⟨fields, -, hrecord, hlookup, -⟩ :=
    hspells.record? (by rw [map_fst_parts]; exact nodup_fieldNames _) hknown
  exact ⟨fields, hrecord, hlookup⟩

theorem ofJson?_of_spelledBy {request : Request} {json : Json} (hspelled : request.SpelledBy json) :
    ofJson? json = some request := by
  -- no field of a request is named as its tag
  have hnames : ∀ part ∈ request.parts, part.1 ≠ "kind" := by
    cases request <;> simp [parts, toFields, Interval.toFields, Fields.parts]
  obtain ⟨content, hunion, hcontent⟩ := Spells.union? hspelled hnames
  simp only [ofJson?_eq, hunion, Option.bind_some, ofCase?, string?_string]
  cases request with
  | numExecutions | numGraphExecutions | sourceFileList | numAlertsAndBreakdown =>
      obtain ⟨_, _, _, rfl, _⟩ := hcontent
      rfl
  | page sequence range =>
      obtain ⟨fields, hrecord, hlookup⟩ := exists_record hcontent 3
      simp only [parts, Fields.parts, toFields, Interval.toFields, List.map_cons,
        List.forall_mem_cons, exists_eq_right'] at hlookup
      rw [tag, fieldNames] at hrecord
      simp [ofContent?, tag, hrecord, Interval.ofFields?, Fields.required, hlookup,
        ofEnclosedJson?_toJson_sequence]
  | executionData range =>
      obtain ⟨fields, hrecord, hlookup⟩ := exists_record hcontent 2
      simp only [parts, Fields.parts, toFields, Interval.toFields, List.map_cons,
        List.forall_mem_cons, exists_eq_right'] at hlookup
      rw [tag, fieldNames] at hrecord
      simp [ofContent?, tag, hrecord, Interval.ofFields?, Fields.required, hlookup]
  | stackFrames ids =>
      obtain ⟨fields, hrecord, hlookup⟩ := exists_record hcontent 1
      simp only [parts, Fields.parts, toFields, List.map_cons, List.forall_mem_cons,
        exists_eq_right'] at hlookup
      rw [tag, fieldNames] at hrecord
      simp [ofContent?, tag, hrecord, Fields.required, hlookup]
  | graphOpInfo key =>
      obtain ⟨fields, hrecord, hlookup⟩ := exists_record hcontent 1
      obtain ⟨value, hvalue, hkey⟩ := hlookup _ List.mem_cons_self
      have hread := GraphOpKey.faithful.read_of_spells rfl hkey
      rw [tag, fieldNames] at hrecord
      simp [ofContent?, tag, hrecord, Fields.required, hvalue, hread]
  | sourceFile file =>
      obtain ⟨fields, hrecord, hlookup⟩ := exists_record hcontent 1
      obtain ⟨value, hvalue, hfile⟩ := hlookup _ List.mem_cons_self
      have hread := SourceFile.faithful.read_of_spells rfl hfile
      rw [tag, fieldNames] at hrecord
      simp [ofContent?, tag, hrecord, Fields.required, hvalue, hread]
  | alertsOfType alertType range =>
      obtain ⟨fields, hrecord, hlookup⟩ := exists_record hcontent 3
      simp only [parts, Fields.parts, toFields, Interval.toFields, List.map_cons,
        List.forall_mem_cons, exists_eq_right'] at hlookup
      rw [tag, fieldNames] at hrecord
      simp [ofContent?, tag, hrecord, Interval.ofFields?, Fields.required, hlookup,
        ofEnclosedJson?_toJson_alertType]

theorem spelledBy_toJson (request : Request) : request.SpelledBy request.toJson := by
  refine spells_object (.cons ⟨rfl, rfl⟩ ?_)
  cases request with
  | graphOpInfo key => exact .cons ⟨rfl, spells_object (forall₂_parts _)⟩ .nil
  | sourceFile file => exact .cons ⟨rfl, spells_object (forall₂_parts _)⟩ .nil
  | _ => exact forall₂_parts _

theorem faithful : Faithful toJson ofJson? (unionNames "kind" caseNames) where
  read_write := fun request => ofJson?_of_spelledBy request.spelledBy_toJson
  unordered := unordered_union unordered_ofCase?
  ignores := ignores_union ignores_ofCase?

end Request

end TraceViewer
