import TraceViewer.Proofs.Session.ScopeMarks

/-!
# Replies, failures and marks

A reply takes every mark that it clears (`answered_onReply`), and a failed fetch takes
every mark that its request backs (`failed_onFetchFailed`).  Both hold whatever else the
scope is waiting for, and also when the reply is refused: a refused batch, a refused
range of records and refused alerts give up their marks as well.
-/

namespace TraceViewer

/-- Whether a reply takes a mark from every scope. -/
inductive Reply.Clears : Reply → Mark → Prop where
  | numExecutions (total : Nat) : Clears (.numExecutions total) (.sequence .executions .total)
  | numGraphExecutions (total : Nat) :
      Clears (.numGraphExecutions total) (.sequence .graphExecutions .total)
  | executionDigests {batch : Batch ExecutionDigest} {mark : SequenceMark}
      (spans : Timeline.SpansPage batch.range mark) :
      Clears (.executionDigests batch) (.sequence .executions mark)
  | graphExecutions {batch : Batch GraphExecution} {mark : SequenceMark}
      (spans : Timeline.SpansPage batch.range mark) :
      Clears (.graphExecutions batch) (.sequence .graphExecutions mark)
  | executionData {range : Interval} {records : List Execution} {index : Nat}
      (mem : index ∈ range) : Clears (.executionData range records) (.record index)
  | stackFrames {frames : FrameTable} {id : FrameId} (mem : id ∈ frames) :
      Clears (.stackFrames frames) (.frame id)
  | graphOpInfo {op : GraphOp} {key : GraphOpKey} (graphId_eq : op.graphId? = some key.graphId)
      (opName_eq : op.opName = key.opName) : Clears (.graphOpInfo op) (.op key)
  | sourceFileList (files : List SourceFile) : Clears (.sourceFileList files) .fileList
  | sourceFile (file : SourceFile) (lines : List String) :
      Clears (.sourceFile file lines) (.file file)
  | numAlertsAndBreakdown (tally : AlertTally) : Clears (.numAlertsAndBreakdown tally) .alerts
  | alerts (alertType : AlertType) (range : Interval) (tally : AlertTally)
      (alerts : List Alert) : Clears (.alertsOfType alertType range tally alerts) .alerts
  | alertsOfType (alertType : AlertType) (range : Interval) (tally : AlertTally)
      (alerts : List Alert) :
      Clears (.alertsOfType alertType range tally alerts) (.alertsOfType alertType)

/-- What a source with `limit` items of each sequence may reply. -/
def Reply.Sound (limit : SequenceKind → Nat) : Reply → Prop
  | .numExecutions total => total ≤ limit .executions
  | .numGraphExecutions total => total ≤ limit .graphExecutions
  | .executionDigests batch => batch.total ≤ limit .executions
  | .graphExecutions batch => batch.total ≤ limit .graphExecutions
  | .sourceFileList files => files.Nodup
  | _ => True

namespace RunScope

variable {limit : SequenceKind → Nat} {run : RunId} {kept : Mark → Prop}
  {queue : List PendingFetch} {scope : RunScope}

/-- What a reply leaves: a sound scope, in which the marks it clears are gone unless
they are asked for anew. -/
abbrev Answered (limit : SequenceKind → Nat) (run : RunId) (scope : RunScope) (reply : Reply)
    (queue : List PendingFetch) (after : RunScope) : Prop :=
  Leaves limit run (fun mark => scope.Marked mark ∧ ¬ reply.Clears mark) queue after

/-! ## The sequences -/

/-- A reply about the digests takes marks of the digests only. -/
theorem answered_withDigests {reply : Reply} (hsound : scope.Sound limit)
    {digests : Timeline ExecutionDigest} (hkind : digests.kind = .executions)
    (hrest : ∀ mark, reply.Clears mark → ∃ other, mark = .sequence .executions other)
    (hdigests : digests.Sound (limit .executions) ∧
      digests.Follows queue run fun mark => scope.executions.digests.Marked mark ∧
        ¬ reply.Clears (.sequence .executions mark)) :
    Answered limit run scope reply queue (scope.withDigests digests) := by
  refine leaves_withDigests hsound hkind ?_ hdigests
  intro mark hmark hother
  refine ⟨hmark, fun hclears => ?_⟩
  obtain ⟨other, heq⟩ := hrest mark hclears
  exact hother other heq

/-- A reply about the executions inside graphs takes marks of these only. -/
theorem answered_withGraphExecutions {reply : Reply} (hsound : scope.Sound limit)
    {graphExecutions : Timeline GraphExecution} (hkind : graphExecutions.kind = .graphExecutions)
    (hrest : ∀ mark, reply.Clears mark → ∃ other, mark = .sequence .graphExecutions other)
    (hgraph : graphExecutions.Sound (limit .graphExecutions) ∧
      graphExecutions.Follows queue run fun mark => scope.graphExecutions.Marked mark ∧
        ¬ reply.Clears (.sequence .graphExecutions mark)) :
    Answered limit run scope reply queue { scope with graphExecutions } := by
  refine leaves_withGraphExecutions hsound hkind ?_ hgraph
  intro mark hmark hother
  refine ⟨hmark, fun hclears => ?_⟩
  obtain ⟨other, heq⟩ := hrest mark hclears
  exact hother other heq

theorem leaves_focusFirst (hsound : scope.Sound limit) (total : Nat) :
    Leaves limit run scope.Marked [] (scope.focusFirst total) := by
  rw [focusFirst]
  split_ifs
  · exact leaves_focusDigest hsound _ _
  · exact leaves_self hsound

section Timelines

variable {α : Type} {timeline : Timeline α} {bound : Nat} {kind : SequenceKind} {reply : Reply}

/-- What a reply with a total leaves of the marks of a timeline. -/
theorem follows_onTotal_clears (hsound : timeline.Sound bound) {total : Nat}
    (hlimit : total ≤ bound) (now : Nat)
    (hclears : ∀ mark, reply.Clears (.sequence kind mark) → mark = .total) :
    (timeline.onTotal run total now).1.Sound bound ∧
      (timeline.onTotal run total now).1.Follows
        (Command.queueOf ((timeline.onTotal run total now).2.map Prod.fst)) run
        fun mark => timeline.Marked mark ∧ ¬ reply.Clears (.sequence kind mark) := by
  obtain ⟨hafter, hfollows⟩ : _ ∧ (timeline.onTotal run total now).1.Follows _ run _ :=
    Timeline.follows_onTotal hsound hlimit now
  refine ⟨hafter, fun mark hmark => (hfollows mark hmark).imp_left ?_⟩
  rintro ⟨hold, hne⟩
  exact ⟨hold, fun hclear => hne (hclears mark hclear)⟩

/-- What a reply with a batch leaves of the marks of a timeline. -/
theorem follows_onPage_clears (hsound : timeline.Sound bound) {batch : Batch α}
    (hlimit : batch.total ≤ bound) (now : Nat)
    (hclears : ∀ mark, reply.Clears (.sequence kind mark) →
      Timeline.SpansPage batch.range mark) :
    (timeline.onPage run batch now).1.Sound bound ∧
      (timeline.onPage run batch now).1.Follows
        (Command.queueOf ((timeline.onPage run batch now).2.map Prod.fst)) run
        fun mark => timeline.Marked mark ∧ ¬ reply.Clears (.sequence kind mark) := by
  obtain ⟨hafter, hfollows⟩ : _ ∧ (timeline.onPage run batch now).1.Follows _ run _ :=
    Timeline.follows_onPage hsound hlimit now
  refine ⟨hafter, fun mark hmark => (hfollows mark hmark).imp_left ?_⟩
  rintro ⟨hold, hshort⟩
  exact ⟨hold, fun hclear => hshort (hclears mark hclear)⟩

end Timelines

theorem answered_numExecutions (hsound : scope.Sound limit) {total : Nat} (now : Nat)
    (hlimit : total ≤ limit .executions) :
    Answered limit run scope (.numExecutions total)
      (Command.queueOf ((scope.onReply run now (.numExecutions total)).2.map Prod.fst))
      (scope.onReply run now (.numExecutions total)).1 := by
  have hdigests : Answered limit run scope (.numExecutions total)
      (Command.queueOf ((scope.executions.digests.onTotal run total now).2.map Prod.fst))
      (scope.withDigests (scope.executions.digests.onTotal run total now).1) := by
    refine answered_withDigests hsound ((Timeline.kind_onTotal ..).trans hsound.digests_kind)
      ?_ (follows_onTotal_clears hsound.digests hlimit now ?_)
    · rintro mark ⟨⟩
      exact ⟨_, rfl⟩
    · rintro mark ⟨⟩
      rfl
  refine numExecutions_induct (motive := fun after queue =>
    Answered limit run scope (.numExecutions total) queue after) now total hdigests ?_
  intro before queue htaken
  simpa using htaken.trans (leaves_focusFirst htaken.sound total)

theorem answered_numGraphExecutions (hsound : scope.Sound limit) {total : Nat} (now : Nat)
    (hlimit : total ≤ limit .graphExecutions) :
    Answered limit run scope (.numGraphExecutions total)
      (Command.queueOf ((scope.onReply run now (.numGraphExecutions total)).2.map Prod.fst))
      (scope.onReply run now (.numGraphExecutions total)).1 := by
  refine answered_withGraphExecutions hsound ((Timeline.kind_onTotal ..).trans hsound.graph_kind)
    ?_ (follows_onTotal_clears hsound.graphExecutions hlimit now ?_)
  · rintro mark ⟨⟩
    exact ⟨_, rfl⟩
  · rintro mark ⟨⟩
    rfl

theorem answered_executionDigests (hsound : scope.Sound limit) {batch : Batch ExecutionDigest}
    (now : Nat) (hlimit : batch.total ≤ limit .executions) :
    Answered limit run scope (.executionDigests batch)
      (Command.queueOf ((scope.onReply run now (.executionDigests batch)).2.map Prod.fst))
      (scope.onReply run now (.executionDigests batch)).1 := by
  refine answered_withDigests hsound
    ((Timeline.kind_onPage hsound.digests hlimit run now).trans hsound.digests_kind)
    ?_ (follows_onPage_clears hsound.digests hlimit now ?_)
  · rintro mark ⟨⟩
    exact ⟨_, rfl⟩
  · rintro mark ⟨⟩
    assumption

theorem answered_graphExecutions (hsound : scope.Sound limit) {batch : Batch GraphExecution}
    (now : Nat) (hlimit : batch.total ≤ limit .graphExecutions) :
    Answered limit run scope (.graphExecutions batch)
      (Command.queueOf ((scope.onReply run now (.graphExecutions batch)).2.map Prod.fst))
      (scope.onReply run now (.graphExecutions batch)).1 := by
  refine answered_withGraphExecutions hsound
    ((Timeline.kind_onPage hsound.graphExecutions hlimit run now).trans hsound.graph_kind)
    ?_ (follows_onPage_clears hsound.graphExecutions hlimit now ?_)
  · rintro mark ⟨⟩
    exact ⟨_, rfl⟩
  · rintro mark ⟨⟩
    assumption

/-! ## Giving up marks -/

/-- The marks of the alerts of a kind are taken. -/
theorem leaves_alertsTaken (hsound : scope.Sound limit) {alertType : AlertType}
    {taken : Mark → Prop}
    (htaken : ∀ mark, taken mark → mark = .alerts ∨ mark = .alertsOfType alertType)
    {board : AlertBoard} (hload : board.load.isLoading = false)
    (hinFlight : board.inFlight = scope.alerts.inFlight.erase alertType) :
    Leaves limit run (fun mark => scope.Marked mark ∧ ¬ taken mark) []
      { scope with alerts := board } := by
  refine leaves_withAlerts hsound ?_ ?_ ?_
  · intro mark hmark hother hotherType
    refine ⟨hmark, fun htake => ?_⟩
    rcases htaken mark htake with heq | heq
    · exact hother heq
    · exact hotherType _ heq
  · intro hloading
    rw [hload] at hloading
    cases hloading
  · intro other hmem
    rw [hinFlight, Std.ExtTreeSet.mem_erase] at hmem
    obtain ⟨hne, hmem⟩ := hmem
    refine Or.inl ⟨hmem, fun htake => ?_⟩
    rcases htaken _ htake with heq | heq
    · cases heq
    · cases heq
      exact hne Std.ReflCmp.compare_self

section Files

variable {file : SourceFile} {taken : Mark → Prop} (htaken : ∀ mark, taken mark → mark = .file file)
  {change : FileContent → FileContent}

include htaken in
/-- A file that is not listed has no mark that could be taken. -/
theorem leaves_fileRefused (hsound : scope.Sound limit) {error : ViewError}
    (hmodify : scope.sources.modifyContent file change = .error error) :
    Leaves limit run (fun mark => scope.Marked mark ∧ ¬ taken mark) [] scope := by
  refine ⟨hsound, fun mark hmark => Or.inl ⟨hmark, fun htake => ?_⟩⟩
  cases htaken mark htake
  exact SourceShelf.not_isLoading_of_error hmodify hmark

include htaken in
/-- The mark of a file is taken. -/
theorem leaves_fileTaken (hsound : scope.Sound limit) {sources : SourceShelf}
    (hmodify : scope.sources.modifyContent file change = .ok sources)
    (hchange : ∀ content, (change content).phase ≠ .loading) :
    Leaves limit run (fun mark => scope.Marked mark ∧ ¬ taken mark) []
      { scope with sources } := by
  refine leaves_withSources hsound (hsound.sources.modifyContent hmodify) ?_ ?_ ?_
  · intro mark hmark _ hother
    exact ⟨hmark, fun htake => hother file (htaken mark htake)⟩
  · intro hloading
    rw [(SourceShelf.files_modifyContent hmodify).2] at hloading
    refine Or.inl ⟨hloading, fun htake => ?_⟩
    cases htaken _ htake
  · intro other hloading
    rcases SourceShelf.isLoading_modifyContent hsound.sources.nodup hmodify hloading with
      ⟨hbefore, hne⟩ | ⟨_, content, hphase⟩
    · refine Or.inl ⟨hbefore, fun htake => ?_⟩
      cases htaken _ htake
      exact hne rfl
    · exact absurd hphase (hchange content)

end Files

/-! ## Records, frames, ops and files -/

theorem putAll_spec (timeline : ExecutionTimeline) (start : Nat) (records : List Execution) :
    (timeline.putAll start records).digests = timeline.digests ∧
      (timeline.putAll start records).recordsInFlight = timeline.recordsInFlight := by
  induction records generalizing timeline start with
  | nil => exact ⟨rfl, rfl⟩
  | cons record rest ih =>
      exact ih { timeline with records := timeline.records.insert start record } (start + 1)

/-- Records that are refused give up their marks as well. -/
theorem onRecords_spec (timeline : ExecutionTimeline) (range : Interval)
    (records : List Execution) :
    (timeline.onRecords range records).1.digests = timeline.digests ∧
      (timeline.onRecords range records).1.recordsInFlight =
        timeline.recordsInFlight.filter fun index => index ∉ range := by
  rw [ExecutionTimeline.onRecords]
  split_ifs
  · exact ⟨rfl, rfl⟩
  · exact putAll_spec (timeline.release range) range.start records

theorem answered_executionData (hsound : scope.Sound limit) (now : Nat) (range : Interval)
    (records : List Execution) :
    Answered limit run scope (.executionData range records)
      (Command.queueOf ((scope.onReply run now (.executionData range records)).2.map Prod.fst))
      (scope.onReply run now (.executionData range records)).1 := by
  obtain ⟨hdigests, hinFlight⟩ := onRecords_spec scope.executions range records
  refine leaves_withExecutions hsound hdigests ?_ ?_
  · intro mark hmark hother
    exact ⟨hmark, by rintro ⟨⟩; exact hother _ rfl⟩
  · intro index hmem
    have hmem : index ∈ (scope.executions.onRecords range records).1.recordsInFlight := hmem
    rw [hinFlight, Std.ExtTreeSet.mem_filter] at hmem
    obtain ⟨hmem, hout⟩ := hmem
    refine Or.inl ⟨hmem, fun hclears => ?_⟩
    cases hclears with
    | executionData hin => simp [hin] at hout

theorem answered_stackFrames (hsound : scope.Sound limit) (now : Nat) (frames : FrameTable) :
    Answered limit run scope (.stackFrames frames)
      (Command.queueOf ((scope.onReply run now (.stackFrames frames)).2.map Prod.fst))
      (scope.onReply run now (.stackFrames frames)).1 := by
  refine leaves_withFrames hsound ?_ ?_
  · intro mark hmark hother
    exact ⟨hmark, by rintro ⟨⟩; exact hother _ rfl⟩
  · intro id hmem
    rw [Std.ExtTreeSet.mem_filter] at hmem
    obtain ⟨hmem, hout⟩ := hmem
    refine Or.inl ⟨hmem, fun hclears => ?_⟩
    cases hclears with
    | stackFrames hin => simp [hin] at hout

theorem answered_graphOpInfo (hsound : scope.Sound limit) (now : Nat) (op : GraphOp) :
    Answered limit run scope (.graphOpInfo op)
      (Command.queueOf ((scope.onReply run now (.graphOpInfo op)).2.map Prod.fst))
      (scope.onReply run now (.graphOpInfo op)).1 := by
  refine leaves_withOps hsound ?_ ?_
  · intro mark hmark hother
    exact ⟨hmark, by rintro ⟨⟩; exact hother _ rfl⟩
  · intro key hloading
    have hloading : (scope.ops.onLoaded op).1.phase key = .loading := hloading
    refine Or.inl ?_
    rw [OpStore.onLoaded] at hloading
    cases hgraph : op.graphId? with
    | none =>
        -- an op outside all graphs is refused, and it clears no mark either
        rw [hgraph] at hloading
        refine ⟨hloading, fun hclears => ?_⟩
        cases hclears with
        | graphOpInfo hsame _ =>
            rw [hgraph] at hsame
            cases hsame
    | some graphId =>
        -- the stage is corrected under the key of the op, which is what the reply clears
        rw [hgraph] at hloading
        obtain ⟨hbefore, hkey⟩ := OpStore.phase_updatePhase _ _ (by decide) hloading
        refine ⟨hbefore, fun hclears => ?_⟩
        cases hclears with
        | graphOpInfo hsame hname =>
            rw [hgraph, Option.some.injEq] at hsame
            exact hkey (by rw [hsame, hname])

theorem answered_sourceFileList (hsound : scope.Sound limit) (now : Nat)
    {files : List SourceFile} (hnodup : files.Nodup) :
    Answered limit run scope (.sourceFileList files)
      (Command.queueOf ((scope.onReply run now (.sourceFileList files)).2.map Prod.fst))
      (scope.onReply run now (.sourceFileList files)).1 := by
  refine leaves_withSources hsound (scope.sources.sound_onListLoaded hnodup now) ?_ ?_ ?_
  · intro mark hmark hother _
    exact ⟨hmark, by rintro ⟨⟩; exact hother rfl⟩
  · intro hloading
    cases hloading
  · intro file hloading
    exact Or.inl ⟨SourceShelf.isLoading_onListLoaded hloading, by rintro ⟨⟩⟩

theorem answered_sourceFile (hsound : scope.Sound limit) (now : Nat) (file : SourceFile)
    (lines : List String) :
    Answered limit run scope (.sourceFile file lines)
      (Command.queueOf ((scope.onReply run now (.sourceFile file lines)).2.map Prod.fst))
      (scope.onReply run now (.sourceFile file lines)).1 := by
  have htaken : ∀ mark, (Reply.sourceFile file lines).Clears mark → mark = .file file := by
    rintro mark ⟨⟩
    rfl
  rw [onReply]
  rcases hloaded : scope.sources.onFileLoaded file lines with error | sources
  · exact leaves_fileRefused htaken hsound hloaded
  · exact leaves_fileTaken htaken hsound hloaded fun content => by simp

/-! ## Alerts -/

theorem answered_numAlertsAndBreakdown (hsound : scope.Sound limit) (now : Nat)
    (tally : AlertTally) :
    Answered limit run scope (.numAlertsAndBreakdown tally)
      (Command.queueOf ((scope.onReply run now (.numAlertsAndBreakdown tally)).2.map Prod.fst))
      (scope.onReply run now (.numAlertsAndBreakdown tally)).1 := by
  have htallied : Answered limit run scope (.numAlertsAndBreakdown tally) []
      { scope with alerts := (scope.alerts.onTally tally now).1 } := by
    refine leaves_withAlerts hsound ?_ ?_ ?_
    · intro mark hmark hother _
      exact ⟨hmark, by rintro ⟨⟩; exact hother rfl⟩
    · intro hloading
      cases hloading
    · intro alertType hmem
      exact Or.inl ⟨hmem, by rintro ⟨⟩⟩
  exact htallied.trans (leaves_requestFocusedAlerts htallied.sound)

/-- Giving up the marks of alerts of a kind. -/
theorem answered_alertsLeft (hsound : scope.Sound limit) {alertType : AlertType}
    {range : Interval} {tally : AlertTally} {alerts : List Alert} {board : AlertBoard}
    (hload : board.load.isLoading = false)
    (hinFlight : board.inFlight = scope.alerts.inFlight.erase alertType) :
    Answered limit run scope (.alertsOfType alertType range tally alerts) []
      { scope with alerts := board } := by
  refine leaves_alertsTaken hsound (fun mark hclears => ?_) hload hinFlight
  cases hclears with
  | alerts => exact Or.inl rfl
  | alertsOfType => exact Or.inr rfl

theorem answered_alertsOfType (hsound : scope.Sound limit) (now : Nat) (alertType : AlertType)
    (range : Interval) (tally : AlertTally) (alerts : List Alert) :
    Answered limit run scope (.alertsOfType alertType range tally alerts)
      (Command.queueOf
        ((scope.onReply run now (.alertsOfType alertType range tally alerts)).2.map Prod.fst))
      (scope.onReply run now (.alertsOfType alertType range tally alerts)).1 := by
  have hmerged : Answered limit run scope (.alertsOfType alertType range tally alerts) []
      { scope with alerts := scope.alerts.merge alertType range tally alerts now } :=
    answered_alertsLeft hsound rfl rfl
  refine alertsOfType_induct (motive := fun after queue =>
    Answered limit run scope (.alertsOfType alertType range tally alerts) queue after)
    now alertType range tally alerts ?_ hmerged ?_ ?_
  · exact answered_alertsLeft hsound rfl rfl
  · intro index
    exact hmerged.trans (leaves_scroll hmerged.sound .executions (.recenter index))
  · intro moved queue index hmoved
    simpa using hmoved.trans (leaves_focusGraphExecution hmoved.sound (some index))

/-! ## All replies -/

/-- A reply takes every mark that it clears. -/
theorem answered_onReply (hsound : scope.Sound limit) {reply : Reply}
    (hreply : reply.Sound limit) (now : Nat) :
    Answered limit run scope reply
      (Command.queueOf ((scope.onReply run now reply).2.map Prod.fst))
      (scope.onReply run now reply).1 := by
  cases reply with
  | numExecutions total => exact answered_numExecutions hsound now hreply
  | numGraphExecutions total => exact answered_numGraphExecutions hsound now hreply
  | executionDigests batch => exact answered_executionDigests hsound now hreply
  | graphExecutions batch => exact answered_graphExecutions hsound now hreply
  | executionData range records => exact answered_executionData hsound now range records
  | stackFrames frames => exact answered_stackFrames hsound now frames
  | graphOpInfo op => exact answered_graphOpInfo hsound now op
  | sourceFileList files => exact answered_sourceFileList hsound now hreply
  | sourceFile file lines => exact answered_sourceFile hsound now file lines
  | numAlertsAndBreakdown tally => exact answered_numAlertsAndBreakdown hsound now tally
  | alertsOfType alertType range tally alerts =>
      exact answered_alertsOfType hsound now alertType range tally alerts

/-! ## Failures -/

/-- What a failed fetch leaves: a sound scope, without the marks that the request backs. -/
abbrev Failed (limit : SequenceKind → Nat) (run : RunId) (scope : RunScope) (request : Request)
    (after : RunScope) : Prop :=
  Leaves limit run (fun mark => scope.Marked mark ∧ ¬ request.Backs mark) [] after

theorem failed_numExecutions (hsound : scope.Sound limit) :
    Failed limit run scope .numExecutions (scope.onFetchFailed .numExecutions) := by
  refine leaves_withDigests hsound hsound.digests_kind ?_ ⟨hsound.digests.withTotalLoad _, ?_⟩
  · intro mark hmark hother
    exact ⟨hmark, by rintro ⟨⟩; exact hother _ rfl⟩
  · intro mark hmark
    cases mark with
    | total => cases hmark
    | page => exact Or.inl ⟨hmark, by rintro ⟨⟩⟩

theorem failed_numGraphExecutions (hsound : scope.Sound limit) :
    Failed limit run scope .numGraphExecutions (scope.onFetchFailed .numGraphExecutions) := by
  refine leaves_withGraphExecutions hsound hsound.graph_kind ?_
    ⟨hsound.graphExecutions.withTotalLoad _, ?_⟩
  · intro mark hmark hother
    exact ⟨hmark, by rintro ⟨⟩; exact hother _ rfl⟩
  · intro mark hmark
    cases mark with
    | total => cases hmark
    | page => exact Or.inl ⟨hmark, by rintro ⟨⟩⟩

/-- A failed page takes the marks that its request backs: they lie in its range. -/
theorem follows_onPageFailed_backs {α : Type} {timeline : Timeline α} {bound : Nat}
    (hsound : timeline.Sound bound) (kind : SequenceKind) (range : Interval) :
    (timeline.onPageFailed range).Sound bound ∧
      (timeline.onPageFailed range).Follows [] run fun mark =>
        timeline.Marked mark ∧ ¬ (Request.page kind range).Backs (.sequence kind mark) := by
  obtain ⟨hafter, hmarks⟩ := Timeline.follows_onPageFailed hsound range
  refine ⟨hafter, fun mark hmark => ?_⟩
  obtain ⟨hold, hshort⟩ := hmarks mark hmark
  refine Or.inl ⟨hold, fun hbacks => ?_⟩
  cases hbacks with
  | page hstart hstop =>
      -- a mark reaches past its start, so a range that backs it spans it
      have hlt := (Timeline.lt_of_marked hsound hold).1
      exact hshort ⟨Interval.mem_def.mpr ⟨hstart, by omega⟩, hstop⟩

theorem failed_page (hsound : scope.Sound limit) (kind : SequenceKind) (range : Interval) :
    Failed limit run scope (.page kind range) (scope.onFetchFailed (.page kind range)) := by
  cases kind with
  | executions =>
      refine leaves_withDigests hsound hsound.digests_kind ?_
        (follows_onPageFailed_backs hsound.digests .executions range)
      intro mark hmark hother
      exact ⟨hmark, by rintro ⟨⟩; exact hother _ rfl⟩
  | graphExecutions =>
      refine leaves_withGraphExecutions hsound hsound.graph_kind ?_
        (follows_onPageFailed_backs hsound.graphExecutions .graphExecutions range)
      intro mark hmark hother
      exact ⟨hmark, by rintro ⟨⟩; exact hother _ rfl⟩

theorem failed_sourceFile (hsound : scope.Sound limit) (file : SourceFile) :
    Failed limit run scope (.sourceFile file) (scope.onFetchFailed (.sourceFile file)) := by
  have htaken : ∀ mark, (Request.sourceFile file).Backs mark → mark = .file file := by
    rintro mark ⟨⟩
    rfl
  rw [onFetchFailed, SourceShelf.onFileFailed]
  rcases hmodify : scope.sources.modifyContent file fun content =>
    { content with phase := .failed } with error | marked
  · exact leaves_fileRefused htaken hsound hmodify
  · exact leaves_fileTaken htaken hsound hmodify fun content => by simp

theorem failed_alertsOfType (hsound : scope.Sound limit) (alertType : AlertType)
    (range : Interval) :
    Failed limit run scope (.alertsOfType alertType range)
      (scope.onFetchFailed (.alertsOfType alertType range)) := by
  refine leaves_alertsTaken hsound (fun mark hbacks => ?_) rfl rfl
  cases hbacks with
  | alerts => exact Or.inl rfl
  | alertsOfType => exact Or.inr rfl

/-- A failed fetch takes every mark that its request backs. -/
theorem failed_onFetchFailed (hsound : scope.Sound limit) (request : Request) :
    Failed limit run scope request (scope.onFetchFailed request) := by
  cases request with
  | numExecutions => exact failed_numExecutions hsound
  | numGraphExecutions => exact failed_numGraphExecutions hsound
  | page kind range => exact failed_page hsound kind range
  | sourceFile file => exact failed_sourceFile hsound file
  | alertsOfType alertType range => exact failed_alertsOfType hsound alertType range
  | executionData range =>
      refine leaves_withExecutions hsound rfl ?_ fun index hmem => Or.inl ?_
      · intro mark hmark hother
        exact ⟨hmark, by rintro ⟨⟩; exact hother _ rfl⟩
      · obtain ⟨hmem, hout⟩ := Std.ExtTreeSet.mem_filter.mp hmem
        refine ⟨hmem, fun hbacks => ?_⟩
        cases hbacks with
        | executionData hin => simp [hin] at hout
  | stackFrames ids =>
      refine leaves_withFrames hsound ?_ fun id hmem => Or.inl ?_
      · intro mark hmark hother
        exact ⟨hmark, by rintro ⟨⟩; exact hother _ rfl⟩
      · obtain ⟨hmem, hout⟩ := Std.ExtTreeSet.mem_filter.mp hmem
        refine ⟨hmem, fun hbacks => ?_⟩
        cases hbacks with
        | stackFrames hin => simp [hin] at hout
  | graphOpInfo key =>
      refine leaves_withOps hsound ?_ fun other hloading => Or.inl ?_
      · intro mark hmark hother
        exact ⟨hmark, by rintro ⟨⟩; exact hother _ rfl⟩
      · obtain ⟨hbefore, hne⟩ := OpStore.phase_updatePhase scope.ops key (by decide) hloading
        exact ⟨hbefore, by rintro ⟨⟩; exact hne rfl⟩
  | sourceFileList =>
      refine leaves_withSources hsound ⟨hsound.sources.nodup, hsound.sources.aligned⟩ ?_ ?_
        fun file hloading => Or.inl ?_
      · intro mark hmark hother _
        exact ⟨hmark, by rintro ⟨⟩; exact hother rfl⟩
      · intro hloading
        cases hloading
      · exact ⟨hloading, by rintro ⟨⟩⟩
  | numAlertsAndBreakdown =>
      refine leaves_withAlerts hsound ?_ ?_ fun alertType hmem => Or.inl ?_
      · intro mark hmark hother _
        exact ⟨hmark, by rintro ⟨⟩; exact hother rfl⟩
      · intro hloading
        cases hloading
      · exact ⟨hmem, by rintro ⟨⟩⟩

end RunScope

end TraceViewer
