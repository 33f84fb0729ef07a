import TraceViewer.Proofs.Session.Coherence
import TraceViewer.Proofs.Session.ReplyMarks
import TraceViewer.Proofs.Session.StoredOps
import TraceViewer.Proofs.Simulation.ArchiveReplies

/-!
# Replies of the recording keep coherence

What a recording replies is taken from it, so taking up a reply keeps a scope coherent
with the recording (`coherent_onReply`).  Two replies need a word:

* A page comes with the range that it was cut off to, and its items are put where that
  range says.
* An op comes with its neighbours embedded.  The recording keeps every op without what
  it embeds, and the store strips the op and the neighbours again, so each is the op that
  the recording has under its name.
-/

namespace TraceViewer

/-! ## Pages -/

namespace Timeline

variable {α : Type} {timeline : Timeline α} {limit : Nat} {truth : Nat → Option α}

/-- A total changes nothing of what a timeline holds. -/
theorem shows_onTotal (hsound : timeline.Sound limit) (hshows : timeline.Shows truth)
    {total : Nat} (run : RunId) (now : Nat) :
    (timeline.onTotal run total now).1.Shows truth ∧
      (timeline.onTotal run total now).1.numItems ≤ max timeline.numItems total := by
  by_cases hlt : total < timeline.numItems
  · obtain ⟨error, htotal⟩ := onTotal_of_lt hlt run now
    rw [htotal]
    exact ⟨hshows, Nat.le_max_left _ _⟩
  · obtain ⟨view, demand, hresolved, hnumItems, _, htotal⟩ :=
      onTotal_of_le hsound (Nat.le_of_not_lt hlt) run now
    let finished := { timeline with totalLoad := timeline.totalLoad.finish now }
    have hasks : finished.view.Asks view demand := hresolved.1
    rw [htotal]
    -- a new total asks for pages and holds no more items than before
    refine ⟨?_, ?_⟩
    · unfold Shows
      rw [items_asking hasks]
      exact hshows
    · rw [numItems_asking, hnumItems]
      exact Nat.le_max_right _ _

/-- Whether a batch shows what is true of a source. -/
def IsTrue (truth : Nat → Option α) (batch : Batch α) : Prop :=
  ∀ ⦃offset : Nat⦄ ⦃item : α⦄, batch.items[offset]? = some item →
    truth (batch.range.start + offset) = some item

theorem shows_merged (hshows : timeline.Shows truth) {batch : Batch α}
    (htrue : IsTrue truth batch) (now : Nat) : (timeline.merged batch now).Shows truth := by
  intro index item hitem
  rw [merged_eq] at hitem
  change (timeline.view.sequence.merge batch).1.items[index]? = some item at hitem
  by_cases haccepts : timeline.view.sequence.Accepts batch
  · obtain ⟨report, hmerge, _⟩ := PagedSequence.merge_of_accepts haccepts
    rw [hmerge] at hitem
    change (timeline.view.sequence.stored batch).items[index]? = some item at hitem
    rw [PagedSequence.stored, PagedSequence.getElem?_putAll] at hitem
    split_ifs at hitem with hrange
    · have htruth := htrue hitem
      rwa [Nat.add_sub_cancel' hrange.1] at htruth
    · exact hshows hitem
  · obtain ⟨error, hmerge⟩ := PagedSequence.merge_of_not_accepts haccepts
    rw [hmerge] at hitem
    exact hshows hitem

theorem numItems_merged_le (timeline : Timeline α) (batch : Batch α) (now : Nat) :
    (timeline.merged batch now).numItems ≤ max timeline.numItems batch.total := by
  rw [merged_eq]
  exact numItems_merge_le timeline.view.sequence batch

/-- A page adds to a timeline what is true of its source. -/
theorem shows_onPage (hsound : timeline.Sound limit) (hshows : timeline.Shows truth)
    {batch : Batch α} (hlimit : batch.total ≤ limit) (htrue : IsTrue truth batch) (run : RunId)
    (now : Nat) :
    (timeline.onPage run batch now).1.Shows truth ∧
      (timeline.onPage run batch now).1.numItems ≤ max timeline.numItems batch.total := by
  have hmerged := shows_merged hshows htrue now
  have hnumItems := timeline.numItems_merged_le batch now
  by_cases haccepts : timeline.view.sequence.Accepts batch
  · by_cases hlt : timeline.numItems < batch.total
    · obtain ⟨view, demand, hresolved, htotal, _, hpage⟩ :=
        onPage_of_accepts_lt hsound haccepts hlt hlimit run now
      rw [hpage]
      refine ⟨?_, ?_⟩
      · unfold Shows
        rw [items_asking hresolved.1]
        exact hmerged
      · rw [numItems_asking, htotal]
        exact Nat.le_max_right _ _
    · rw [onPage_of_accepts_le haccepts (Nat.le_of_not_lt hlt)]
      -- the total is known, so nothing is asked for
      exact ⟨hmerged, hnumItems⟩
  · obtain ⟨error, hpage⟩ := onPage_of_not_accepts haccepts run now
    rw [hpage]
    exact ⟨hmerged, hnumItems⟩

end Timeline

/-! ## Replies -/

/-- A page shows the items of its range. -/
theorem Archive.isTrue_pageOf {α β : Type} (view : α → β) (all : List α) (range : Interval) :
    Timeline.IsTrue (fun index => all[index]?.map view) (pageOf view all range) := by
  intro offset item hitem
  simp only [pageOf, List.getElem?_map, Option.map_eq_some_iff] at hitem ⊢
  obtain ⟨record, hrecord, rfl⟩ := hitem
  rw [List.getElem?_take] at hrecord
  split_ifs at hrecord
  rw [List.getElem?_drop] at hrecord
  exact ⟨record, hrecord, rfl⟩

/-- What is cut out of a list stands in the list at the offset of the cut. -/
theorem getElem?_of_cut {α : Type} {all : List α} {start count offset : Nat} {item : α}
    (hitem : ((all.drop start).take count)[offset]? = some item) :
    all[start + offset]? = some item := by
  rw [List.getElem?_take] at hitem
  split_ifs at hitem
  rw [List.getElem?_drop] at hitem
  exact hitem

/-- Holding consecutive records that are true. -/
theorem ExecutionTimeline.records_putAll {truth : Nat → Option Execution}
    {timeline : ExecutionTimeline} (hold : ∀ ⦃index record⦄,
      timeline.records[index]? = some record → truth index = some record)
    {start : Nat} {records : List Execution} (hnew : ∀ ⦃offset record⦄,
      records[offset]? = some record → truth (start + offset) = some record) :
    ∀ ⦃index record⦄, (timeline.putAll start records).records[index]? = some record →
      truth index = some record := by
  induction records generalizing timeline start with
  | nil => exact hold
  | cons head rest ih =>
      refine ih ?_ ?_
      · intro index record hrecord
        dsimp only at hrecord
        rw [Std.ExtTreeMap.getElem?_insert] at hrecord
        split_ifs at hrecord with heq
        · rw [Std.LawfulEqOrd.compare_eq_iff_eq] at heq
          subst heq
          have hhead : (head :: rest)[0]? = some record := hrecord
          exact hnew hhead
        · exact hold hrecord
      · intro offset record hrecord
        have htail : (head :: rest)[offset + 1]? = some record := hrecord
        rw [Nat.add_assoc, Nat.add_comm 1]
        exact hnew htail

/-- Holding consecutive alerts that are true. -/
theorem AlertShelf.alerts_putAll {truth : Nat → Option Alert} {shelf : AlertShelf}
    (hold : ∀ ⦃ordinal alert⦄, shelf.alerts[ordinal]? = some alert → truth ordinal = some alert)
    {start : Nat} {alerts : List Alert} (hnew : ∀ ⦃offset alert⦄,
      alerts[offset]? = some alert → truth (start + offset) = some alert) :
    ∀ ⦃ordinal alert⦄, (shelf.putAll start alerts).alerts[ordinal]? = some alert →
      truth ordinal = some alert := by
  induction alerts generalizing shelf start with
  | nil => exact hold
  | cons head rest ih =>
      refine ih ?_ ?_
      · intro ordinal alert halert
        rw [AlertShelf.put] at halert
        split_ifs at halert with hheld
        · exact hold halert
        · dsimp only at halert
          rw [Std.ExtTreeMap.getElem?_insert] at halert
          split_ifs at halert with heq
          · rw [Std.LawfulEqOrd.compare_eq_iff_eq] at heq
            subst heq
            have hhead : (head :: rest)[0]? = some alert := halert
            exact hnew hhead
          · exact hold halert
      · intro offset alert halert
        have htail : (head :: rest)[offset + 1]? = some alert := halert
        rw [Nat.add_assoc, Nat.add_comm 1]
        exact hnew htail

/-- A table that takes up frames has each from one of the two tables. -/
theorem getElem?_foldl_insertIfNew {table frames : FrameTable} {id : FrameId}
    {frame : StackFrame}
    (hframe : (frames.foldl (fun table id frame => table.insertIfNew id frame) table)[id]? =
      some frame) :
    table[id]? = some frame ∨ frames[id]? = some frame := by
  -- the fold is over the entries, and the induction is on their list
  have hlist : ∀ (entries : List (FrameId × StackFrame)) (table : FrameTable),
      (entries.foldl (fun table entry => table.insertIfNew entry.1 entry.2) table)[id]? =
        some frame → table[id]? = some frame ∨ (id, frame) ∈ entries := by
    intro entries
    induction entries with
    | nil => exact fun table hframe => Or.inl hframe
    | cons head rest ih =>
        intro table hframe
        rcases ih _ hframe with hold | hmem
        · rw [Std.ExtTreeMap.getElem?_insertIfNew] at hold
          split_ifs at hold with heq
          · rw [Std.LawfulEqOrd.compare_eq_iff_eq] at heq
            cases hold
            cases heq.1
            exact Or.inr List.mem_cons_self
          · exact Or.inl hold
        · exact Or.inr (List.mem_cons_of_mem head hmem)
  rw [Std.ExtTreeMap.foldl_eq_foldl_toList] at hframe
  exact (hlist frames.toList table hframe).imp_right
    Std.ExtTreeMap.mem_toList_iff_getElem?_eq_some.mp

/-- What is embedded in an op was found under the name of an edge. -/
theorem GraphOp.mem_neighbours_embed {op neighbour : GraphOp} {lookup : String → Option GraphOp}
    (hmem : neighbour ∈ (op.embed lookup).neighbours) : ∃ name, lookup name = some neighbour := by
  rcases List.mem_append.mp hmem with hinput | hconsumer
  · obtain ⟨edge, hedge, hdata⟩ := List.mem_filterMap.mp hinput
    obtain ⟨input, _, rfl⟩ := List.mem_map.mp hedge
    exact ⟨input.opName, hdata⟩
  · obtain ⟨edge, hedge, hdata⟩ := List.mem_filterMap.mp hconsumer
    obtain ⟨slot, hslot, hedge⟩ := List.mem_flatten.mp hedge
    obtain ⟨consumers, _, rfl⟩ := List.mem_map.mp hslot
    obtain ⟨consumer, _, rfl⟩ := List.mem_map.mp hedge
    exact ⟨consumer.opName, hdata⟩

namespace RunScope

variable {recording : Recording} {scope : RunScope} {run : RunId} {now : Nat}

theorem coherent_withDigests (hcoherent : scope.Coherent recording)
    {digests : Timeline ExecutionDigest}
    (hshows : digests.Shows fun index => recording.executions[index]?.map Execution.digest)
    (hle : digests.numItems ≤ recording.executions.length) :
    (scope.withDigests digests).Coherent recording :=
  { hcoherent with
    digests := hshows
    numItems_le := by
      intro kind
      cases kind with
      | executions => exact hle
      | graphExecutions => exact hcoherent.numItems_le .graphExecutions }

theorem coherent_withGraphExecutions (hcoherent : scope.Coherent recording)
    {graphExecutions : Timeline GraphExecution}
    (hshows : graphExecutions.Shows fun index => recording.graphExecutions[index]?)
    (hle : graphExecutions.numItems ≤ recording.graphExecutions.length) :
    { scope with graphExecutions }.Coherent recording :=
  { hcoherent with
    graphExecutions := hshows
    numItems_le := by
      intro kind
      cases kind with
      | executions => exact hcoherent.numItems_le .executions
      | graphExecutions => exact hle }

theorem coherent_numExecutions (hcoherent : scope.Coherent recording)
    (hsound : scope.Sound recording.total) :
    (scope.onReply run now (.numExecutions recording.executions.length)).1.Coherent
      recording := by
  obtain ⟨hshows, hle⟩ := Timeline.shows_onTotal hsound.digests hcoherent.digests run now
  have hbound : scope.executions.digests.numItems ≤ recording.executions.length :=
    hcoherent.numItems_le .executions
  have hdigests := coherent_withDigests hcoherent hshows
    (Nat.le_trans hle (Nat.max_le.mpr ⟨hbound, Nat.le_refl _⟩))
  refine numExecutions_induct (motive := fun after _ => after.Coherent recording) now _ hdigests ?_
  intro before _ htaken
  exact htaken.of_keeps (before.quiet_focusFirst _).keeps

theorem coherent_numGraphExecutions (hcoherent : scope.Coherent recording)
    (hsound : scope.Sound recording.total) :
    (scope.onReply run now (.numGraphExecutions recording.graphExecutions.length)).1.Coherent
      recording := by
  obtain ⟨hshows, hle⟩ :=
    Timeline.shows_onTotal hsound.graphExecutions hcoherent.graphExecutions run now
  have hbound : scope.graphExecutions.numItems ≤ recording.graphExecutions.length :=
    hcoherent.numItems_le .graphExecutions
  exact coherent_withGraphExecutions hcoherent hshows
    (Nat.le_trans hle (Nat.max_le.mpr ⟨hbound, Nat.le_refl _⟩))

theorem coherent_executionDigests (hcoherent : scope.Coherent recording)
    (hsound : scope.Sound recording.total) (range : Interval) :
    (scope.onReply run now (.executionDigests
      (Archive.pageOf Execution.digest recording.executions range))).1.Coherent recording := by
  obtain ⟨hshows, hle⟩ := Timeline.shows_onPage hsound.digests hcoherent.digests
    (Nat.le_refl _) (Archive.isTrue_pageOf Execution.digest recording.executions range) run now
  have hbound : scope.executions.digests.numItems ≤ recording.executions.length :=
    hcoherent.numItems_le .executions
  exact coherent_withDigests hcoherent hshows
    (Nat.le_trans hle (Nat.max_le.mpr ⟨hbound, Nat.le_refl _⟩))

theorem coherent_graphExecutions (hcoherent : scope.Coherent recording)
    (hsound : scope.Sound recording.total) (range : Interval) :
    (scope.onReply run now (.graphExecutions
      (Archive.pageOf id recording.graphExecutions range))).1.Coherent recording := by
  have htrue : Timeline.IsTrue (fun index => recording.graphExecutions[index]?)
      (Archive.pageOf id recording.graphExecutions range) := by
    simpa using Archive.isTrue_pageOf id recording.graphExecutions range
  obtain ⟨hshows, hle⟩ := Timeline.shows_onPage hsound.graphExecutions
    hcoherent.graphExecutions (Nat.le_refl _) htrue run now
  have hbound : scope.graphExecutions.numItems ≤ recording.graphExecutions.length :=
    hcoherent.numItems_le .graphExecutions
  exact coherent_withGraphExecutions hcoherent hshows
    (Nat.le_trans hle (Nat.max_le.mpr ⟨hbound, Nat.le_refl _⟩))

theorem coherent_executionData (hcoherent : scope.Coherent recording) {range : Interval}
    {records : List Execution} (hrecords : Archive.recordsIn recording range = .ok records) :
    (scope.onReply run now (.executionData range records)).1.Coherent recording := by
  -- an answered range lies in the recording, and the records are cut out of it
  have hcut : records = (recording.executions.drop range.start).take range.length := by
    rw [Archive.recordsIn] at hrecords
    split_ifs at hrecords
    cases hrecords
    rfl
  have hheld : ∀ ⦃index : Nat⦄ ⦃record : Execution⦄,
      (scope.executions.onRecords range records).1.records[index]? = some record →
        recording.executions[index]? = some record := by
    rw [ExecutionTimeline.onRecords]
    split_ifs
    · exact hcoherent.records
    · have hold : ∀ ⦃index : Nat⦄ ⦃record : Execution⦄,
          (scope.executions.release range).records[index]? = some record →
            recording.executions[index]? = some record := hcoherent.records
      refine ExecutionTimeline.records_putAll hold ?_
      intro offset record hrecord
      rw [hcut] at hrecord
      exact getElem?_of_cut hrecord
  have hdigests := (onRecords_spec scope.executions range records).1
  refine
    { hcoherent with
      digests := ?_
      records := hheld
      numItems_le := ?_ }
  · change Timeline.Shows (scope.executions.onRecords range records).1.digests _
    rw [hdigests]
    exact hcoherent.digests
  · intro kind
    cases kind with
    | executions =>
        change (scope.executions.onRecords range records).1.digests.numItems ≤ _
        rw [hdigests]
        exact hcoherent.numItems_le .executions
    | graphExecutions => exact hcoherent.numItems_le .graphExecutions

theorem coherent_stackFrames (hcoherent : scope.Coherent recording) {frames : FrameTable}
    {ids : List FrameId} (hframes : Archive.framesIn recording ids = .ok frames) :
    (scope.onReply run now (.stackFrames frames)).1.Coherent recording := by
  refine { hcoherent with frames := ?_ }
  intro id frame hframe
  rcases getElem?_foldl_insertIfNew hframe with hold | hnew
  · exact hcoherent.frames hold
  · exact (Archive.framesIn_spec hframes).2 hnew

/-- The op of a reply and its neighbours are the ops that the recording has under their
names. -/
theorem op?_of_embedded (hkeyed : recording.Keyed) {key : GraphOpKey} {op arrived : GraphOp}
    (hop : recording.op? key = some op)
    (harrived : arrived = op.embed fun name =>
      (recording.op? { key with opName := name }).map GraphOp.stripped) {added : GraphOp}
    (hadded : added ∈ arrived.neighbours.map GraphOp.stripped ++ [arrived.stripped]) :
    recording.op? { key with opName := added.opName } = some added := by
  obtain ⟨_, hopName, hstripped⟩ := hkeyed hop
  rcases List.mem_append.mp hadded with hneighbour | hself
  · obtain ⟨neighbour, hmem, rfl⟩ := List.mem_map.mp hneighbour
    obtain ⟨name, hlookup⟩ := GraphOp.mem_neighbours_embed (harrived ▸ hmem)
    obtain ⟨kept, hkept, rfl⟩ := Option.map_eq_some_iff.mp hlookup
    obtain ⟨_, hname, hsame⟩ := hkeyed hkept
    have hname : kept.opName = name := hname
    rw [hsame, hsame, hname]
    exact hkept
  · rw [List.mem_singleton.mp hself, harrived, Recording.stripped_embed, hstripped, hopName]
    exact hop

theorem coherent_graphOpInfo (hcoherent : scope.Coherent recording) (hkeyed : recording.Keyed)
    {key : GraphOpKey} {op : GraphOp} (hop : recording.op? key = some op) :
    (scope.onReply run now (.graphOpInfo (op.embed fun name =>
      (recording.op? { key with opName := name }).map GraphOp.stripped))).1.Coherent
        recording := by
  let arrived := op.embed fun name =>
    (recording.op? { key with opName := name }).map GraphOp.stripped
  have hgraphId : arrived.graphId? = some key.graphId := (hkeyed hop).1
  refine { hcoherent with ops := ?_ }
  intro other found hfound
  have hfound : (scope.ops.onLoaded arrived).1.op? other = some found := hfound
  rw [OpStore.op?_onLoaded _ hgraphId] at hfound
  split_ifs at hfound with heq
  · -- in the graph of the reply an op is one of those that arrived or an old one
    rcases Option.or_eq_some_iff.mp hfound with hbrought | ⟨_, hold⟩
    · obtain ⟨hmem, hname⟩ := OpStore.mem_of_brought? hbrought
      have hadded := op?_of_embedded hkeyed hop (show arrived = _ from rfl) hmem
      rw [hname, heq] at hadded
      exact hadded
    · exact hcoherent.ops hold
  · exact hcoherent.ops hfound

/-- A file that is listed anew has no lines yet, and any other has those it had. -/
theorem coherent_sourceFileList (hcoherent : scope.Coherent recording)
    (files : List SourceFile) :
    (scope.onReply run now (.sourceFileList files)).1.Coherent recording := by
  refine { hcoherent with lines := ?_ }
  intro index file content lines hfile hcontent hlines
  have hfile : files[index]? = some file := hfile
  have hcontent : (files.map fun file => (scope.sources.content? file).getD {})[index]? =
      some content := hcontent
  rw [List.getElem?_map, hfile, Option.map_some, Option.some.injEq] at hcontent
  rw [SourceShelf.content?] at hcontent
  -- the content of the file is the one it had under its old place, if it was listed
  cases hplace : scope.sources.index? file with
  | none =>
      simp only [hplace, Option.bind_none, Option.getD_none] at hcontent
      rw [← hcontent] at hlines
      cases hlines
  | some place =>
      cases hold : scope.sources.contents[place]? with
      | none =>
          simp only [hplace, hold, Option.bind_some, Option.getD_none] at hcontent
          rw [← hcontent] at hlines
          cases hlines
      | some kept =>
          simp only [hplace, hold, Option.bind_some, Option.getD_some] at hcontent
          subst hcontent
          exact hcoherent.lines (SourceShelf.getElem?_of_index? hplace) hold hlines

theorem coherent_sourceFile (hcoherent : scope.Coherent recording) {file : SourceFile}
    {lines : List String} (hlines : recording.sourceFiles[file]? = some lines) :
    (scope.onReply run now (.sourceFile file lines)).1.Coherent recording := by
  rw [onReply]
  rcases hmodify : scope.sources.onFileLoaded file lines with error | sources
  · exact hcoherent
  · obtain ⟨place, hplace, _, rfl⟩ := SourceShelf.modifyContent_eq_ok_iff.mp hmodify
    refine { hcoherent with lines := ?_ }
    intro index other content found hother hcontent hfound
    have hcontent : (scope.sources.contents.modify place _)[index]? = some content := hcontent
    rw [List.getElem?_modify, Option.map_eq_map, Option.map_eq_some_iff] at hcontent
    obtain ⟨kept, hkept, rfl⟩ := hcontent
    by_cases heq : place = index
    · -- the place is that of the file, so what was filled in are its lines
      subst heq
      have hfile := SourceShelf.getElem?_of_index? hplace
      rw [if_pos rfl] at hfound
      cases hfound
      rw [show other = file by rw [← Option.some.injEq, ← hfile, ← hother]]
      exact hlines
    · rw [if_neg heq] at hfound
      exact hcoherent.lines hother hkept hfound

/-- The shelf of a kind takes up the alerts of that kind, by ordinal. -/
theorem coherent_mergeAlerts (hcoherent : scope.Coherent recording) {alertType : AlertType}
    {range : Interval} {alerts : List Alert}
    (halerts : Archive.alertsIn recording alertType range = .ok alerts) (tally : AlertTally) :
    { scope with alerts := scope.alerts.merge alertType range tally alerts now }.Coherent
      recording := by
  have hcut : alerts = ((recording.alertsOfType alertType).drop range.start).take range.length := by
    rw [Archive.alertsIn] at halerts
    split_ifs at halerts
    cases halerts
    rfl
  have hold : ∀ ⦃ordinal : Nat⦄ ⦃alert : Alert⦄,
      (scope.alerts.shelves[alertType]?.getD {}).alerts[ordinal]? = some alert →
        (recording.alertsOfType alertType)[ordinal]? = some alert := by
    intro ordinal alert halert
    cases hheld : scope.alerts.shelves[alertType]? with
    | none => simp [hheld] at halert
    | some shelf =>
        rw [hheld] at halert
        exact hcoherent.alerts hheld halert
  refine { hcoherent with alerts := ?_ }
  intro other shelf ordinal alert hentry halert
  have hshelf : (scope.alerts.shelves.insert alertType
      ((scope.alerts.shelves[alertType]?.getD {}).putAll range.start alerts))[other]? =
        some shelf := hentry
  rw [Std.ExtTreeMap.getElem?_insert] at hshelf
  split_ifs at hshelf with heq
  · -- the shelf of the kind: its old alerts, and the new ones from the start of the range
    rw [Std.LawfulEqOrd.compare_eq_iff_eq] at heq
    rw [Option.some.injEq] at hshelf
    rw [← hshelf] at halert
    rw [← heq]
    refine AlertShelf.alerts_putAll hold ?_ halert
    intro offset alert halert
    rw [hcut] at halert
    exact getElem?_of_cut halert
  · exact hcoherent.alerts hshelf halert

theorem coherent_alertsOfType (hcoherent : scope.Coherent recording)
    (hsound : scope.Sound recording.total) {alertType : AlertType} {range : Interval}
    {alerts : List Alert} (halerts : Archive.alertsIn recording alertType range = .ok alerts) :
    (scope.onReply run now (.alertsOfType alertType range recording.tally alerts)).1.Coherent
      recording := by
  have hmerged : Coherent recording
      { scope with alerts := scope.alerts.merge alertType range recording.tally alerts now } :=
    coherent_mergeAlerts hcoherent halerts recording.tally
  refine alertsOfType_induct (motive := fun after _ => after.Coherent recording)
    now alertType range recording.tally alerts ?_ hmerged ?_ ?_
  · have hfailed : scope.Quiet { scope with alerts := scope.alerts.onFailed alertType } [] :=
      quiet_withAlerts rfl pageless_nil
    exact hcoherent.of_keeps hfailed.keeps
  · intro index
    exact hmerged.of_keeps (keeps_scroll (hsound.withAlerts _) run .executions (.recenter index))
  · intro moved _ index hmoved
    exact hmoved.of_keeps (moved.quiet_focusGraphExecution (some index)).keeps

/-- Taking up what the recording replies keeps a scope coherent with it. -/
theorem coherent_onReply (hcoherent : scope.Coherent recording)
    (hsound : scope.Sound recording.total) (hkeyed : recording.Keyed) {request : Request}
    {reply : Reply} (hreplies : recording.Replies request reply) :
    (scope.onReply run now reply).1.Coherent recording := by
  cases hreplies with
  | numExecutions => exact coherent_numExecutions hcoherent hsound
  | numGraphExecutions => exact coherent_numGraphExecutions hcoherent hsound
  | executionDigests range => exact coherent_executionDigests hcoherent hsound range
  | graphExecutions range => exact coherent_graphExecutions hcoherent hsound range
  | executionData hrecords => exact coherent_executionData hcoherent hrecords
  | stackFrames hframes => exact coherent_stackFrames hcoherent hframes
  | graphOpInfo hop => exact coherent_graphOpInfo hcoherent hkeyed hop
  | sourceFileList => exact coherent_sourceFileList hcoherent recording.sourceFiles.keys
  | sourceFile hlines => exact coherent_sourceFile hcoherent hlines
  | numAlertsAndBreakdown =>
      exact hcoherent.of_keeps (scope.quiet_tally run now recording.tally).keeps
  | alertsOfType halerts => exact coherent_alertsOfType hcoherent hsound halerts

end RunScope

end TraceViewer
