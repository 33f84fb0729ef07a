import TraceViewer.Proofs.Paging.RepeatedBatches
import TraceViewer.Proofs.Session.ScopeEffort
import TraceViewer.Proofs.Session.SequenceHistories
import TraceViewer.Proofs.Session.Wants

/-!
# Repeated replies

Every part of a scope that a reply fills can tell whether it has what the reply brings
already.  For each there are two lemmas: a part that took the reply up has what it brings, and
a part that has it stays as it is when the reply comes again.

A timeline knows a total (`knows_onTotal`), contains a batch (`contains_onPage`), and has its
window around an index (`centeredOn_scroll`).  Records replace those that are held, by the same
records (`hasRecords_onRecords`); an op that arrives among its neighbours wins again
(`hasOp_onLoaded`); a list of files that names each of them once keeps every content in its
place (`lists_onListLoaded`); and alerts are held once (`hasAlerts_merge`).
-/

namespace TraceViewer

/-- A filter that keeps everything changes nothing. -/
theorem filter_of_kept {κ : Type} [Ord κ] [Std.TransOrd κ] [Std.LawfulEqOrd κ]
    {set : Std.ExtTreeSet κ} {keep : κ → Bool} (hkept : ∀ key ∈ set, keep key = true) :
    set.filter keep = set := by
  refine Std.ExtTreeSet.ext_mem fun key => ?_
  rw [Std.ExtTreeSet.mem_filter]
  exact ⟨fun hkey => hkey.1, fun hkey => ⟨hkey, by simpa using hkept key hkey⟩⟩

/-! ## Timelines -/

theorem PagedView.satisfied_setNumItems {α : Type} {view after : PagedView α} {total : Nat}
    {demand : PageDemand} (hset : view.setNumItems total = (after, .ok demand)) :
    after.numItems = total ∧ after.Satisfied := by
  rw [setNumItems, PagedSequence.setNumItems] at hset
  split_ifs at hset
  · cases hset
  · have hpolls := polls_resolveWindow
      { view with sequence := { view.sequence with numItems := total } }
    dsimp only at hset
    rw [hset] at hpolls
    exact ⟨hpolls.numItems_eq, satisfied_resolveWindow hset⟩

namespace Timeline

variable {α : Type} {timeline after : Timeline α} {run : RunId} {now : Nat}

/-- The timeline without its load states. -/
def withoutLoads (timeline : Timeline α) : Timeline α :=
  { timeline with totalLoad := {}, pagesLoad := {} }

/-- Whether a total is known, and the window was asked for at that total. -/
structure Knows (timeline : Timeline α) (total : Nat) : Prop where
  numItems_eq : timeline.numItems = total
  satisfied : timeline.view.Satisfied

theorem knows_onTotal {total : Nat} {result : Command × Bool}
    (haccepted : timeline.onTotal run total now = (after, .ok result)) : after.Knows total := by
  rw [onTotal] at haccepted
  rcases hset : timeline.view.setNumItems total with ⟨view, error | demand⟩ <;>
    rw [hset] at haccepted
  · cases haccepted
  · obtain ⟨hnumItems, hsatisfied⟩ := PagedView.satisfied_setNumItems hset
    dsimp only at haccepted
    cases haccepted
    constructor
    · rw [numItems, view_issue]
      exact hnumItems
    · rw [view_issue]
      exact hsatisfied

theorem onTotal_of_knows {total : Nat} (hknows : timeline.Knows total) (run : RunId) (now : Nat) :
    ∃ again, timeline.onTotal run total now = (again, .ok (.none, false)) ∧
      again.withoutLoads = timeline.withoutLoads := by
  obtain ⟨rfl, hsatisfied⟩ := hknows
  have hset : timeline.view.setNumItems timeline.numItems = (timeline.view, .ok {}) :=
    PagedView.setNumItems_of_satisfied hsatisfied
  refine ⟨{ timeline with totalLoad := timeline.totalLoad.finish now }, ?_, rfl⟩
  rw [onTotal, hset]
  simp [issue, PageDemand.isEmpty]

theorem contains_onPage {batch : Batch α} {result : Command × Bool}
    (hacc : timeline.view.sequence.Accounted) (hfits : timeline.view.Fits)
    (haccepted : timeline.onPage run batch now = (after, .ok result)) :
    after.view.sequence.Contains batch := by
  by_cases haccepts : timeline.view.sequence.Accepts batch
  · have hmerged : (timeline.merged batch now).view.sequence.Contains batch := by
      rw [merged_eq]
      exact PagedSequence.contains_merge haccepts
    by_cases hgrew : timeline.numItems < batch.total
    · -- the window is asked for, and the pages that it asks for are not in the batch
      have haccounted : (timeline.merged batch now).view.sequence.Accounted := by
        rw [merged_eq]
        exact PagedSequence.accounted_merge hacc batch
      have hfits : (timeline.merged batch now).view.Fits := by
        rw [merged_eq]
        exact Nat.le_trans hfits (Nat.le_of_eq (PagedSequence.pageSize_merge _ _).symm)
      obtain ⟨demand, hresolved, hlacks, _⟩ :=
        (timeline.merged batch now).view.resolveWindow_spec haccounted hfits
      rw [onPage_of_grown haccepts hgrew, hresolved] at haccepted
      cases haccepted
      rw [asking, view_issue]
      exact PagedSequence.contains_markInFlight hmerged haccounted hlacks
    · rw [onPage_of_accepts_le haccepts (Nat.not_lt.mp hgrew)] at haccepted
      cases haccepted
      exact hmerged
  · obtain ⟨error, hrefused⟩ := onPage_of_not_accepts haccepts run now
    rw [hrefused] at haccepted
    cases haccepted

theorem onPage_of_contains {batch : Batch α} (hcontains : timeline.view.sequence.Contains batch)
    (run : RunId) (now : Nat) :
    ∃ again, timeline.onPage run batch now = (again, .ok (.none, false)) ∧
      again.withoutLoads = timeline.withoutLoads := by
  refine ⟨_, onPage_of_accepts_le hcontains.accepts (Nat.le_of_eq hcontains.total_eq) run now, ?_⟩
  have hview : (timeline.view.merge batch).1 = timeline.view := by
    change { timeline.view with sequence := (timeline.view.sequence.merge batch).1 } = timeline.view
    rw [PagedSequence.merge_of_contains hcontains]
  rw [merged_eq, hview]
  rfl

/-- Whether the window has an index in its middle, and was asked for there. -/
structure CenteredOn (timeline : Timeline α) (index : Nat) : Prop where
  window_eq : timeline.view.window.recenter index = timeline.view.window
  satisfied : timeline.view.Satisfied

theorem centeredOn_scroll {index : Nat} {command : Command}
    (haccepted : timeline.scroll run (.recenter index) = (after, .ok command)) :
    after.CenteredOn index := by
  let moved : PagedView α := { timeline.view with window := timeline.view.window.recenter index }
  have hmove : moveView timeline.view (.recenter index) = moved.resolveWindow := rfl
  rw [scroll, hmove] at haccepted
  have hwindow := moved.window_resolveWindow
  rcases hresolved : moved.resolveWindow with ⟨view, error | demand⟩ <;>
    rw [hresolved] at haccepted hwindow
  · cases haccepted
  · dsimp only at haccepted
    cases haccepted
    constructor
    · rw [view_issue]
      change view.window.recenter index = view.window
      rw [show view.window = timeline.view.window.recenter index from hwindow]
      rfl
    · rw [view_issue]
      exact PagedView.satisfied_resolveWindow hresolved

theorem scroll_of_centeredOn {index : Nat} (hcentered : timeline.CenteredOn index) (run : RunId) :
    timeline.scroll run (.recenter index) = (timeline, .ok .none) := by
  have hmove : moveView timeline.view (.recenter index) = (timeline.view, .ok {}) := by
    change PagedView.resolveWindow
      { timeline.view with window := timeline.view.window.recenter index } = _
    rw [hcentered.window_eq]
    exact hcentered.satisfied
  rw [scroll, hmove]
  rfl

end Timeline

/-! ## Records -/

namespace ExecutionTimeline

variable {timeline : ExecutionTimeline} {range : Interval} {records : List Execution}

/-- Whether the records of a range are held, and none of them is being fetched. -/
structure HasRecords (timeline : ExecutionTimeline) (range : Interval)
    (records : List Execution) : Prop where
  fits : ¬ (range.stop < range.start ∨ records.length ≠ range.length)
  holds : ∀ (offset : Nat) (record : Execution), records[offset]? = some record →
    timeline.records[range.start + offset]? = some record
  idle : ∀ index ∈ range, index ∉ timeline.recordsInFlight

theorem HasRecords.mem_records (hhas : timeline.HasRecords range records) {index : Nat}
    (hindex : index ∈ range) : index ∈ timeline.records := by
  rw [Interval.mem_def] at hindex
  have hlength := not_not.mp (not_or.mp hhas.fits).2
  rw [Interval.length] at hlength
  have hrecord := hhas.holds (index - range.start) _ (List.getElem?_eq_getElem (by omega))
  rw [Nat.add_sub_cancel' hindex.1] at hrecord
  rw [Std.ExtTreeMap.mem_iff_isSome_getElem?, hrecord]
  rfl

/-- Records that are held stay so when another one is marked. -/
theorem HasRecords.mark (hhas : timeline.HasRecords range records) {marked : Nat}
    (hmissing : marked ∉ timeline.records) :
    { timeline with recordsInFlight := timeline.recordsInFlight.insert marked }.HasRecords range
      records where
  fits := hhas.fits
  holds := hhas.holds
  idle := by
    intro index hindex hmarked
    rw [Std.ExtTreeSet.mem_insert, Std.LawfulEqOrd.compare_eq_iff_eq] at hmarked
    rcases hmarked with rfl | hmarked
    · exact hmissing (hhas.mem_records hindex)
    · exact hhas.idle index hindex hmarked

theorem getElem?_records_putAll_of_lt (timeline : ExecutionTimeline) {start index : Nat}
    (hlt : index < start) (records : List Execution) :
    (timeline.putAll start records).records[index]? = timeline.records[index]? := by
  induction records generalizing timeline start with
  | nil => rfl
  | cons record rest ih =>
      rw [putAll, ih _ (Nat.lt_succ_of_lt hlt), Std.ExtTreeMap.getElem?_insert, if_neg]
      rw [Std.LawfulEqOrd.compare_eq_iff_eq]
      omega

theorem getElem?_records_putAll (timeline : ExecutionTimeline) (start : Nat)
    (records : List Execution) (offset : Nat) (record : Execution)
    (hrecord : records[offset]? = some record) :
    (timeline.putAll start records).records[start + offset]? = some record := by
  induction records generalizing timeline start offset with
  | nil => cases hrecord
  | cons head rest ih =>
      rw [putAll]
      cases offset with
      | zero =>
          cases hrecord
          change (putAll _ (start + 1) rest).records[start]? = some record
          rw [getElem?_records_putAll_of_lt _ (Nat.lt_add_one start),
            Std.ExtTreeMap.getElem?_insert_self]
      | succ offset =>
          rw [← Nat.add_assoc, Nat.add_right_comm]
          exact ih _ (start + 1) offset hrecord

theorem hasRecords_onRecords {after : ExecutionTimeline}
    (haccepted : timeline.onRecords range records = (after, .ok ())) :
    after.HasRecords range records := by
  rw [onRecords] at haccepted
  split_ifs at haccepted with hmisfit
  · cases haccepted
  · cases haccepted
    refine ⟨hmisfit, getElem?_records_putAll _ _ _, fun index hindex => ?_⟩
    rw [(RunScope.putAll_spec _ _ _).2, release]
    simp [hindex]

theorem putAll_of_holds {start : Nat} (hholds : ∀ (offset : Nat) (record : Execution),
    records[offset]? = some record → timeline.records[start + offset]? = some record) :
    timeline.putAll start records = timeline := by
  induction records generalizing start with
  | nil => rfl
  | cons record rest ih =>
      have hfirst : timeline.records[start]? = some record := hholds 0 record rfl
      rw [putAll, insert_of_held hfirst]
      refine ih fun offset other hother => ?_
      rw [Nat.add_right_comm]
      exact hholds (offset + 1) other hother

theorem onRecords_of_hasRecords (hhas : timeline.HasRecords range records) :
    timeline.onRecords range records = (timeline, .ok ()) := by
  have hidle : timeline.release range = timeline := by
    rw [release, filter_of_kept]
    intro index hmarked
    rw [decide_eq_true_eq]
    exact fun hindex => hhas.idle index hindex hmarked
  rw [onRecords, if_neg hhas.fits, hidle, putAll_of_holds hhas.holds]

end ExecutionTimeline

/-! ## Ops -/

namespace OpStore

variable {store : OpStore} {op : GraphOp}

/-- Whether the ops that an arriving op brings are held as it brings them, and it is not
being fetched. -/
structure HasOp (store : OpStore) (op : GraphOp) (key : GraphOpKey) : Prop where
  graphId_eq : op.graphId? = some key.graphId
  opName_eq : op.opName = key.opName
  held : ∃ table, store.graphs[key.graphId]? = some table ∧ insertAll table (arrivals op) = table
  phase : store.phase? key = none ∨ store.phase? key = some .loaded

theorem HasOp.isSome_op? {key : GraphOpKey} (hhas : store.HasOp op key) :
    (store.op? key).isSome := by
  obtain ⟨table, htable, hheld⟩ := hhas.held
  have hbrought : (brought? op key.opName).isSome := by
    rw [isSome_brought?_iff]
    exact Or.inl hhas.opName_eq.symm
  rw [op?, htable, Option.bind_some, ← hheld, getElem?_insertAll_eq, Option.isSome_or,
    ← brought?, hbrought, Bool.true_or]

/-- An op that is held stays so when another one is marked. -/
theorem HasOp.mark {key marked : GraphOpKey} (hhas : store.HasOp op key)
    (hmissing : ¬ (store.op? marked).isSome) : (store.setPhase marked .loading).HasOp op key where
  graphId_eq := hhas.graphId_eq
  opName_eq := hhas.opName_eq
  held := hhas.held
  phase := by
    rw [phase?_setPhase, if_neg]
    · exact hhas.phase
    · rintro rfl
      exact hmissing hhas.isSome_op?

theorem setPhase_self {key : GraphOpKey} {phase : LoadPhase}
    (hphase : store.phase? key = some phase) : store.setPhase key phase = store := by
  obtain ⟨stages, hstages, hphase⟩ := Option.bind_eq_some_iff.mp hphase
  rw [setPhase, hstages, Option.getD_some, insert_of_held hphase, insert_of_held hstages]

theorem hasOp_onLoaded {after : OpStore} (haccepted : store.onLoaded op = (after, .ok ())) :
    ∃ key, after.HasOp op key := by
  rw [onLoaded] at haccepted
  cases hgraph : op.graphId? with
  | none =>
      rw [hgraph] at haccepted
      cases haccepted
  | some graphId =>
      rw [hgraph] at haccepted
      cases haccepted
      refine ⟨{ graphId, opName := op.opName }, hgraph, rfl, ?_, ?_⟩
      · rw [RunScope.graphs_updatePhase]
        exact ⟨_, Std.ExtTreeMap.getElem?_insert_self, insertAll_insertAll _ _⟩
      · rw [updatePhase]
        split_ifs with hasked
        · rw [phase?_setPhase, if_pos rfl]
          exact Or.inr rfl
        · exact Or.inl (Option.not_isSome_iff_eq_none.mp hasked)

theorem onLoaded_of_hasOp {key : GraphOpKey} (hhas : store.HasOp op key) :
    store.onLoaded op = (store, .ok ()) := by
  obtain ⟨hgraph, hname, ⟨table, htable, hheld⟩, hphase⟩ := hhas
  have hextended : store.graphs.insert key.graphId
      (insertAll (store.graphs[key.graphId]?.getD ∅) (arrivals op)) = store.graphs := by
    rw [htable, Option.getD_some, hheld, insert_of_held htable]
  have hstage : store.updatePhase key .loaded = store := by
    rw [updatePhase]
    split_ifs with hasked
    · rcases hphase with hnone | hloaded
      · rw [hnone] at hasked
        cases hasked
      · exact setPhase_self hloaded
    · rfl
  rw [onLoaded, hgraph]
  let extended := store.graphs.insert key.graphId
    (insertAll (store.graphs[key.graphId]?.getD ∅) (arrivals op))
  change (updatePhase { store with graphs := extended } ⟨key.graphId, op.opName⟩ .loaded, _) = _
  rw [show extended = store.graphs from hextended, hname]
  exact congrArg (·, _) hstage

end OpStore

/-! ## Files -/

namespace SourceShelf

variable {shelf : SourceShelf} {files : List SourceFile} {file : SourceFile}

/-- Whether a list of files is the one that is held. -/
structure Lists (shelf : SourceShelf) (files : List SourceFile) : Prop where
  nodup : files.Nodup
  files_eq : shelf.files = files
  length_eq : shelf.contents.length = files.length

theorem lists_onListLoaded (shelf : SourceShelf) (hnodup : files.Nodup) (now : Nat) :
    (shelf.onListLoaded files now).Lists files :=
  ⟨hnodup, rfl, List.length_map _⟩

theorem length_contents_markLoading (shelf : SourceShelf) (file : SourceFile) :
    (shelf.markLoading file).contents.length = shelf.contents.length := by
  rw [markLoading]
  cases shelf.index? file <;> simp

/-- Marking a file leaves the list. -/
theorem Lists.mark (hlists : shelf.Lists files) (marked : SourceFile) :
    (shelf.markLoading marked).Lists files where
  nodup := hlists.nodup
  files_eq := hlists.files_eq
  length_eq := (shelf.length_contents_markLoading marked).trans hlists.length_eq

/-- A file that is listed once has the content at its place. -/
theorem content?_of_lists (hlists : shelf.Lists files) {place : Nat}
    (hfile : files[place]? = some file) : shelf.content? file = shelf.contents[place]? := by
  obtain ⟨hnodup, rfl, _⟩ := hlists
  obtain ⟨hlt, hfile⟩ := List.getElem?_eq_some_iff.mp hfile
  have hplace : shelf.index? file = some place := by
    refine List.findIdx?_eq_some_iff_getElem.mpr ⟨hlt, by simpa using hfile, ?_⟩
    intro earlier hearlier
    -- the file is listed in one place only
    have hother := List.pairwise_iff_getElem.mp hnodup earlier place (by omega) hlt hearlier
    simpa [← hfile] using hother
  rw [content?, hplace, Option.bind_some]

theorem onListLoaded_of_lists (hlists : shelf.Lists files) (now : Nat) :
    shelf.onListLoaded files now = { shelf with listLoad := shelf.listLoad.finish now } := by
  have hcontents : (files.map fun file => (shelf.content? file).getD {}) = shelf.contents := by
    refine List.ext_getElem (by rw [List.length_map, hlists.length_eq]) fun place hplace _ => ?_
    rw [List.getElem_map, content?_of_lists hlists (List.getElem?_eq_getElem _),
      List.getElem?_eq_getElem, Option.getD_some]
  rw [onListLoaded, hcontents, hlists.files_eq]

/-- Whether a file is listed, and its content is what has arrived. -/
def HasFile (shelf : SourceShelf) (file : SourceFile) (lines : List String) : Prop :=
  shelf.content? file = some { phase := .loaded, lines := some lines }

/-- A file that is held stays so when another one is marked. -/
theorem HasFile.mark {lines : List String} (hhas : shelf.HasFile file lines) {marked : SourceFile}
    (hlacks : shelf.lacks marked = true) : (shelf.markLoading marked).HasFile file lines := by
  have hother : marked ≠ file := by
    -- a file that is asked for is not loaded
    rintro rfl
    rw [lacks, show shelf.content? marked = _ from hhas] at hlacks
    simp at hlacks
  rw [HasFile, content?_markLoading, if_neg hother]
  exact hhas

theorem hasFile_onFileLoaded {after : SourceShelf} {lines : List String}
    (haccepted : shelf.onFileLoaded file lines = .ok after) : after.HasFile file lines := by
  obtain ⟨content, hcontent⟩ : ∃ content, shelf.content? file = some content := by
    rw [← Option.ne_none_iff_exists']
    intro hnone
    rw [onFileLoaded, modifyContent_of_content?_eq_none hnone] at haccepted
    cases haccepted
  rw [HasFile, content?_modifyContent haccepted, if_pos rfl, hcontent, Option.map_some]

theorem onFileLoaded_of_hasFile {lines : List String} (hhas : shelf.HasFile file lines) :
    shelf.onFileLoaded file lines = .ok shelf := by
  obtain ⟨place, hplace, hfound⟩ := Option.bind_eq_some_iff.mp hhas
  have hsame : shelf.contents.modify place (fun _ => { phase := .loaded, lines := some lines }) =
      shelf.contents := by
    refine List.ext_getElem? fun other => ?_
    rw [List.getElem?_modify]
    split_ifs with hother
    · rw [← hother, hfound]
      rfl
    · simp
  refine modifyContent_eq_ok_iff.mpr
    ⟨place, hplace, (List.getElem?_eq_some_iff.mp hfound).1, ?_⟩
  rw [hsame]

end SourceShelf

/-! ## Alerts -/

namespace AlertShelf

variable {shelf : AlertShelf} {start ordinal : Nat} {alerts : List Alert}

theorem mem_put (shelf : AlertShelf) (ordinal : Nat) (alert : Alert) :
    ordinal ∈ (shelf.put ordinal alert).alerts := by
  rw [put]
  split_ifs with hheld
  · exact hheld
  · exact Std.ExtTreeMap.mem_insert_self

theorem mem_put_of_mem (hheld : ordinal ∈ shelf.alerts) (other : Nat) (alert : Alert) :
    ordinal ∈ (shelf.put other alert).alerts := by
  rw [put]
  split_ifs
  · exact hheld
  · exact Std.ExtTreeMap.mem_insert.mpr (Or.inr hheld)

theorem mem_putAll_of_mem (hheld : ordinal ∈ shelf.alerts) (start : Nat) (alerts : List Alert) :
    ordinal ∈ (shelf.putAll start alerts).alerts := by
  induction alerts generalizing shelf start with
  | nil => exact hheld
  | cons alert rest ih => exact ih (mem_put_of_mem hheld start alert) (start + 1)

/-- An alert is held once. -/
theorem put_putAll_of_mem (hheld : ordinal ∈ shelf.alerts) (start : Nat) (alerts : List Alert)
    (alert : Alert) :
    (shelf.putAll start alerts).put ordinal alert = shelf.putAll start alerts := by
  rw [put, if_pos (mem_putAll_of_mem hheld start alerts)]

theorem putAll_putAll (shelf : AlertShelf) (start : Nat) (alerts : List Alert) :
    (shelf.putAll start alerts).putAll start alerts = shelf.putAll start alerts := by
  induction alerts generalizing shelf start with
  | nil => rfl
  | cons alert rest ih =>
      have hfirst : start ∈ (shelf.put start alert).alerts := mem_put shelf start alert
      calc (shelf.putAll start (alert :: rest)).putAll start (alert :: rest)
          = (((shelf.put start alert).putAll (start + 1) rest).put start alert).putAll
              (start + 1) rest := rfl
        _ = ((shelf.put start alert).putAll (start + 1) rest).putAll (start + 1) rest := by
            rw [put_putAll_of_mem hfirst]
        _ = (shelf.put start alert).putAll (start + 1) rest := ih _ _

end AlertShelf

namespace AlertBoard

variable {board : AlertBoard} {alertType : AlertType} {range : Interval} {tally : AlertTally}
  {alerts : List Alert}

/-- Whether the alerts of a kind need not be asked for. -/
def Sought (board : AlertBoard) (alertType : AlertType) : Prop :=
  board.tally.perType[alertType]?.getD 0 = 0 ∨ alertType ∈ board.shelves ∨
    alertType ∈ board.inFlight

/-- Asking for the alerts of a kind changes neither the tally nor the highlight. -/
theorem requestType_eq (board : AlertBoard) (alertType : AlertType) :
    ∃ inFlight load, (board.requestType alertType).1 = { board with inFlight, load } := by
  rw [requestType]
  split_ifs
  · exact ⟨board.inFlight, board.load, rfl⟩
  · exact ⟨_, _, rfl⟩

theorem sought_requestType (board : AlertBoard) (alertType : AlertType) :
    (board.requestType alertType).1.Sought alertType := by
  rw [requestType]
  split_ifs with hsought
  · exact hsought
  · exact Or.inr (Or.inr Std.ExtTreeSet.mem_insert_self)

theorem requestType_of_sought (hsought : board.Sought alertType) :
    board.requestType alertType = (board, none) := if_pos hsought

/-- Whether the alerts of a batch are held, with the tally that came with them, and none of
their kind are being fetched. -/
structure HasAlerts (board : AlertBoard) (alertType : AlertType) (range : Interval)
    (tally : AlertTally) (alerts : List Alert) : Prop where
  fits : checkBatch range alerts = .ok ()
  tally_eq : board.tally = tally
  held : ∃ shelf, board.shelves[alertType]? = some shelf ∧ shelf.putAll range.start alerts = shelf
  idle : alertType ∉ board.inFlight

theorem hasAlerts_merge (board : AlertBoard) (hfits : checkBatch range alerts = .ok ())
    (alertType : AlertType) (tally : AlertTally) (now : Nat) :
    (board.merge alertType range tally alerts now).HasAlerts alertType range tally alerts where
  fits := hfits
  tally_eq := rfl
  held := ⟨_, Std.ExtTreeMap.getElem?_insert_self, AlertShelf.putAll_putAll ..⟩
  idle := by simp [merge]

theorem merge_of_hasAlerts (hhas : board.HasAlerts alertType range tally alerts) (now : Nat) :
    board.merge alertType range tally alerts now =
      { board with load := board.load.finish now } := by
  obtain ⟨_, rfl, ⟨shelf, hshelf, hheld⟩, hidle⟩ := hhas
  have hmarks : board.inFlight.erase alertType = board.inFlight := by
    refine Std.ExtTreeSet.ext_mem fun other => ?_
    rw [Std.ExtTreeSet.mem_erase]
    refine ⟨fun hother => hother.2, fun hother => ⟨?_, hother⟩⟩
    rw [ne_eq, Std.LawfulEqOrd.compare_eq_iff_eq]
    rintro rfl
    exact hidle hother
  rw [merge, hshelf, Option.getD_some, hheld, insert_of_held hshelf, hmarks]

end AlertBoard

end TraceViewer
