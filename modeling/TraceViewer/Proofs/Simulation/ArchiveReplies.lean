import TraceViewer.Proofs.Simulation.Schedule

/-!
# The replies of an archive

What a recording can reply to a request, said once (`Recording.Replies`, `replies_answer`).
A request for a page is always answered, with the items of its range that exist.  All
others are answered in full or not at all: one frame that is missing fails the whole
request.
-/

namespace TraceViewer

/-- What a recording replies to a request, when it replies. -/
inductive Recording.Replies (recording : Recording) : Request → Reply → Prop where
  | numExecutions :
      Replies recording .numExecutions (.numExecutions recording.executions.length)
  | numGraphExecutions :
      Replies recording .numGraphExecutions
        (.numGraphExecutions recording.graphExecutions.length)
  | executionDigests (range : Interval) :
      Replies recording (.page .executions range)
        (.executionDigests (Archive.pageOf Execution.digest recording.executions range))
  | graphExecutions (range : Interval) :
      Replies recording (.page .graphExecutions range)
        (.graphExecutions (Archive.pageOf id recording.graphExecutions range))
  | executionData {range : Interval} {records : List Execution}
      (records_eq : Archive.recordsIn recording range = .ok records) :
      Replies recording (.executionData range) (.executionData range records)
  | stackFrames {ids : List FrameId} {frames : FrameTable}
      (frames_eq : Archive.framesIn recording ids = .ok frames) :
      Replies recording (.stackFrames ids) (.stackFrames frames)
  | graphOpInfo {key : GraphOpKey} {op : GraphOp} (op_eq : recording.op? key = some op) :
      Replies recording (.graphOpInfo key)
        (.graphOpInfo (op.embed fun name =>
          (recording.op? { key with opName := name }).map GraphOp.stripped))
  | sourceFileList :
      Replies recording .sourceFileList (.sourceFileList recording.sourceFiles.keys)
  | sourceFile {file : SourceFile} {lines : List String}
      (lines_eq : recording.sourceFiles[file]? = some lines) :
      Replies recording (.sourceFile file) (.sourceFile file lines)
  | numAlertsAndBreakdown :
      Replies recording .numAlertsAndBreakdown (.numAlertsAndBreakdown recording.tally)
  | alertsOfType {alertType : AlertType} {range : Interval} {alerts : List Alert}
      (alerts_eq : Archive.alertsIn recording alertType range = .ok alerts) :
      Replies recording (.alertsOfType alertType range)
        (.alertsOfType alertType range recording.tally alerts)

namespace Archive

theorem replies_answer {recording : Recording} {request : Request} {reply : Reply}
    (hanswer : answer recording request = .ok reply) : recording.Replies request reply := by
  cases request with
  | numExecutions =>
      cases hanswer
      exact .numExecutions
  | numGraphExecutions =>
      cases hanswer
      exact .numGraphExecutions
  | page kind range =>
      cases kind with
      | executions =>
          cases hanswer
          exact .executionDigests range
      | graphExecutions =>
          cases hanswer
          exact .graphExecutions range
  | executionData range =>
      rw [answer] at hanswer
      rcases hrecords : recordsIn recording range with error | records
      · rw [hrecords] at hanswer
        cases hanswer
      · rw [hrecords] at hanswer
        cases hanswer
        exact .executionData hrecords
  | stackFrames ids =>
      rw [answer] at hanswer
      rcases hframes : framesIn recording ids with error | frames
      · rw [hframes] at hanswer
        cases hanswer
      · rw [hframes] at hanswer
        cases hanswer
        exact .stackFrames hframes
  | graphOpInfo key =>
      rw [answer, Recording.embeddedOp?] at hanswer
      cases hop : recording.op? key with
      | none =>
          rw [hop] at hanswer
          cases hanswer
      | some op =>
          rw [hop] at hanswer
          cases hanswer
          exact .graphOpInfo hop
  | sourceFileList =>
      cases hanswer
      exact .sourceFileList
  | sourceFile file =>
      rw [answer] at hanswer
      cases hfile : recording.sourceFiles[file]? with
      | none =>
          rw [hfile] at hanswer
          cases hanswer
      | some lines =>
          rw [hfile] at hanswer
          cases hanswer
          exact .sourceFile hfile
  | numAlertsAndBreakdown =>
      cases hanswer
      exact .numAlertsAndBreakdown
  | alertsOfType alertType range =>
      rw [answer] at hanswer
      rcases halerts : alertsIn recording alertType range with error | alerts
      · rw [halerts] at hanswer
        cases hanswer
      · rw [halerts] at hanswer
        cases hanswer
        exact .alertsOfType halerts

/-- A reply to a fetch comes from the recording of its run. -/
theorem replies_fetch {archive : Archive} {run : RunId} {request : Request} {reply : Reply}
    (hfetch : archive.fetch run request = .ok reply) :
    (archive.recordingOf run).Replies request reply := by
  rw [fetch, recording] at hfetch
  split_ifs at hfetch with honline
  cases hrun : archive.runs[run]? with
  | none =>
      rw [hrun] at hfetch
      cases hfetch
  | some recording =>
      rw [hrun] at hfetch
      rw [recordingOf, hrun, Option.getD_some]
      exact replies_answer hfetch

/-- The outcome of a fetch is a reply of the recording, or a failure. -/
theorem outcomeOf_data (archive : Archive) (run : RunId) (request : Request) :
    (∃ reply, (archive.recordingOf run).Replies request reply ∧
        Simulation.outcomeOf archive (.data run request) = .loaded run reply) ∨
      Simulation.outcomeOf archive (.data run request) = .fetchFailed run request := by
  rw [Simulation.outcomeOf]
  rcases hfetch : DataSource.fetch archive run request with error | reply
  · exact Or.inr rfl
  · exact Or.inl ⟨reply, replies_fetch hfetch, rfl⟩

/-! ## Pages and frames -/

/-- Looking up frames one after the other, where every one of them has to be found. -/
theorem foldlM_frames (recorded : FrameTable)
    {step : FrameTable → FrameId → Except TransportError FrameTable}
    (hstep : ∀ table id, (∃ error, step table id = .error error) ∨
      ∃ frame, recorded[id]? = some frame ∧ step table id = .ok (table.insert id frame))
    {ids : List FrameId} {table frames : FrameTable}
    (hfold : ids.foldlM step table = .ok frames) :
    (∀ id, id ∈ ids ∨ id ∈ table → id ∈ frames) ∧
      ∀ ⦃id : FrameId⦄ ⦃frame : StackFrame⦄, frames[id]? = some frame →
        table[id]? = some frame ∨ recorded[id]? = some frame := by
  induction ids generalizing table with
  | nil =>
      cases hfold
      exact ⟨by simp, fun _ _ hframe => Or.inl hframe⟩
  | cons head rest ih =>
      rw [List.foldlM_cons] at hfold
      rcases hstep table head with ⟨error, hhead⟩ | ⟨found, hfound, hhead⟩
      · rw [hhead] at hfold
        cases hfold
      · rw [hhead] at hfold
        obtain ⟨hmem, hvalue⟩ := ih hfold
        refine ⟨fun id hid => hmem id ?_, fun id frame hframe => ?_⟩
        · rw [Std.ExtTreeMap.mem_insert, Std.LawfulEqOrd.compare_eq_iff_eq]
          rcases hid with hid | hid
          · rcases List.mem_cons.mp hid with rfl | hid
            · exact Or.inr (Or.inl rfl)
            · exact Or.inl hid
          · exact Or.inr (Or.inr hid)
        · refine (hvalue hframe).elim (fun hinsert => ?_) Or.inr
          rw [Std.ExtTreeMap.getElem?_insert] at hinsert
          split_ifs at hinsert with heq
          · rw [Std.LawfulEqOrd.compare_eq_iff_eq] at heq
            cases hinsert
            exact Or.inr (heq ▸ hfound)
          · exact Or.inl hinsert

/-- The frames of a request come back together, each as it is recorded. -/
theorem framesIn_spec {recording : Recording} {ids : List FrameId} {frames : FrameTable}
    (hframes : framesIn recording ids = .ok frames) :
    (∀ id ∈ ids, id ∈ frames) ∧
      ∀ ⦃id : FrameId⦄ ⦃frame : StackFrame⦄, frames[id]? = some frame →
        recording.frames[id]? = some frame := by
  rw [framesIn] at hframes
  obtain ⟨hmem, hvalue⟩ := foldlM_frames recording.frames (fun table id => by
    cases hid : recording.frames[id]? with
    | none => exact Or.inl ⟨_, rfl⟩
    | some frame => exact Or.inr ⟨frame, rfl, rfl⟩) hframes
  refine ⟨fun id hid => hmem id (Or.inl hid), fun id frame hframe => ?_⟩
  exact (hvalue hframe).resolve_left (by simp)

end Archive

end TraceViewer
