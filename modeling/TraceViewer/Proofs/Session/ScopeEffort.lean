import TraceViewer.Proofs.Session.ScopeNeeds
import TraceViewer.Proofs.Session.StoredOps
import TraceViewer.Proofs.Simulation.ArchiveReplies

/-!
# The effort of a scope

Fetches come to an end because nothing is asked for twice unless it was lost, and because
a loss by itself asks for nothing.

* A reply that is taken in is worth at least one more than what it asks for and what it
  adds to the needs of the scope.  One that is refused asks for nothing and adds to the
  needs no more than it is worth (`pays_onReply`).
* A failure asks for nothing either, and adds no more (`needs_onFetchFailed`).

That is the reason for the differences in effort.  An execution's record is worth two,
because when it is lost the origin needs it again; and when it arrives, its frames are
needed, which is worth one.
-/

namespace TraceViewer

namespace OpStore

/-- What was held or being fetched stays so when an op arrives. -/
theorem seeks_onLoaded (store : OpStore) (op : GraphOp) {key : GraphOpKey}
    (hseeks : (store.op? key).isSome ∨ store.phase key = .loading) :
    ((store.onLoaded op).1.op? key).isSome ∨ (store.onLoaded op).1.phase key = .loading := by
  rcases hseeks with hheld | hmarked
  · exact Or.inl (store.isSome_op?_onLoaded op hheld)
  · cases hgraph : op.graphId? with
    | none =>
        rw [onLoaded, hgraph]
        exact Or.inr hmarked
    | some graphId =>
        by_cases hkey : { graphId, opName := op.opName } = key
        · exact Or.inl (hkey ▸ store.isSome_op?_onLoaded_self hgraph)
        · rw [onLoaded, hgraph]
          exact Or.inr ((phase_updatePhase_of_ne _ hkey .loaded).trans hmarked)

end OpStore

namespace RunScope

variable {limit : SequenceKind → Nat} {scope before after : RunScope}

/-! ## Replies -/

/-- Without an origin the needs of the focus are as great as can be, the file aside. -/
theorem focalNeeds_le_of_no_origin (hnone : before.focusOrigin = none)
    (hfile : after.fileSought = before.fileSought) : after.focalNeeds ≤ before.focalNeeds := by
  have horigin := effortDue_le 2 after.originSought
  have hframes := effortDue_le 1 after.framesSought
  have hbefore : before.originSought = false ∧ before.framesSought = false := by
    rw [originSought, framesSought, hnone]
    exact ⟨rfl, rfl⟩
  rw [focalNeeds, focalNeeds, hbefore.1, hbefore.2, hfile, effortDue_false, effortDue_false]
  omega

theorem focalNeeds_focusFirst (scope : RunScope) (total : Nat) :
    (scope.focusFirst total).focalNeeds ≤ scope.focalNeeds := by
  rw [focusFirst]
  split_ifs with hfirst
  · cases hlocation : scope.location with
    | none =>
        refine focalNeeds_le_of_no_origin ?_ rfl
        rw [focusOrigin, hlocation, Option.bind_none]
    | some location =>
        cases location with
        | execution =>
            refine focalNeeds_le_of_no_origin ?_ rfl
            rw [focusOrigin, hlocation, Option.bind_some, hfirst.2, Option.map_none]
        | graphOpCreation =>
            -- the stack of an op is followed, whatever execution has the focus
            refine Nat.le_of_eq ?_
            have horigin : focusOrigin { scope.withDigests
                  (scope.executions.digests.setFocus (some 0)) with
                location := some .graphOpCreation } = scope.focusOrigin := by
              rw [focusOrigin, focusOrigin, hlocation]
              rfl
            rw [Option.getD_some, focalNeeds, originSought, framesSought, horigin]
            rfl
  · exact Nat.le_refl _

theorem needs_focusFirst (scope : RunScope) (limit : SequenceKind → Nat) (total : Nat) :
    (scope.focusFirst total).needs limit ≤ scope.needs limit := by
  have hfocal := scope.focalNeeds_focusFirst total
  have hdigests : (scope.focusFirst total).executions.digests.needs (limit .executions) =
      scope.executions.digests.needs (limit .executions) ∧
      (scope.focusFirst total).graphExecutions = scope.graphExecutions := by
    rw [focusFirst]
    split_ifs <;> exact ⟨rfl, rfl⟩
  rw [needs, needs, hdigests.1, hdigests.2]
  omega

/-- A reply pays for what it leads to out of its effort and the needs.  When it is taken
in, one is left over. -/
def Pays (limit : SequenceKind → Nat) (effort : Nat) (scope : RunScope) :
    RunScope × Except ViewError (Command × Bool) → Prop
  | (after, .error _) => after.needs limit ≤ scope.needs limit + effort
  | (after, .ok (command, _)) =>
    effortOf command.queue + after.needs limit < scope.needs limit + effort

theorem pays_numExecutions (scope : RunScope) (run : RunId) (now : Nat) {total : Nat}
    (htotal : limit .executions = total) :
    scope.Pays limit 2 (scope.onReply run now (.numExecutions total)) := by
  subst htotal
  obtain ⟨hfocus, hneeds, heffort⟩ :=
    scope.executions.digests.effort_onTotal run (limit .executions) now
  rw [onReply]
  rcases htotal : scope.executions.digests.onTotal run (limit .executions) now with
    ⟨digests, error | ⟨command, grew⟩⟩ <;> rw [htotal] at hfocus hneeds heffort <;>
    dsimp only at hfocus hneeds
  · change (scope.withDigests digests).needs limit ≤ _
    rw [needs_withDigests hfocus, needs]
    omega
  · -- giving the first execution the focus adds no needs
    have hfirst := (scope.withDigests digests).needs_focusFirst limit (limit .executions)
    rw [needs_withDigests hfocus] at hfirst
    change effortOf command.queue ≤ 1 at heffort
    change effortOf command.queue +
      ((scope.withDigests digests).focusFirst (limit .executions)).needs limit < _
    have hscope : scope.needs limit = scope.executions.digests.needs (limit .executions) +
      scope.graphExecutions.needs (limit .graphExecutions) + scope.focalNeeds := rfl
    omega

theorem pays_numGraphExecutions (scope : RunScope) (run : RunId) (now : Nat) {total : Nat}
    (htotal : limit .graphExecutions = total) :
    scope.Pays limit 2 (scope.onReply run now (.numGraphExecutions total)) := by
  subst htotal
  obtain ⟨_, hneeds, heffort⟩ :=
    scope.graphExecutions.effort_onTotal run (limit .graphExecutions) now
  rw [onReply]
  rcases htotal : scope.graphExecutions.onTotal run (limit .graphExecutions) now with
    ⟨graphExecutions, error | ⟨command, grew⟩⟩ <;> rw [htotal] at hneeds heffort <;>
    dsimp only at hneeds
  · change { scope with graphExecutions }.needs limit ≤ _
    rw [needs_withGraphExecutions, needs]
    omega
  · change effortOf command.queue ≤ 1 at heffort
    change effortOf command.queue + { scope with graphExecutions }.needs limit < _
    rw [needs_withGraphExecutions, needs]
    omega

theorem pays_executionDigests (scope : RunScope) (run : RunId) (now : Nat)
    {batch : Batch ExecutionDigest} (htotal : limit .executions = batch.total) :
    scope.Pays limit 1 (scope.onReply run now (.executionDigests batch)) := by
  obtain ⟨hfocus, heffort⟩ := scope.executions.digests.effort_onPage run batch now
  rw [← htotal] at heffort
  rw [onReply]
  rcases hpage : scope.executions.digests.onPage run batch now with
    ⟨digests, error | ⟨command, grew⟩⟩ <;> rw [hpage] at hfocus heffort <;>
    dsimp only at hfocus
  · change 0 + digests.needs _ ≤ _ at heffort
    change (scope.withDigests digests).needs limit ≤ _
    rw [needs_withDigests hfocus, needs]
    omega
  · change effortOf command.queue + digests.needs _ ≤ _ at heffort
    change effortOf command.queue + (scope.withDigests digests).needs limit < _
    rw [needs_withDigests hfocus, needs]
    omega

theorem pays_graphExecutions (scope : RunScope) (run : RunId) (now : Nat)
    {batch : Batch GraphExecution} (htotal : limit .graphExecutions = batch.total) :
    scope.Pays limit 1 (scope.onReply run now (.graphExecutions batch)) := by
  obtain ⟨_, heffort⟩ := scope.graphExecutions.effort_onPage run batch now
  rw [← htotal] at heffort
  rw [onReply]
  rcases hpage : scope.graphExecutions.onPage run batch now with
    ⟨graphExecutions, error | ⟨command, grew⟩⟩ <;> rw [hpage] at heffort
  · change 0 + graphExecutions.needs _ ≤ _ at heffort
    change { scope with graphExecutions }.needs limit ≤ _
    rw [needs_withGraphExecutions, needs]
    omega
  · change effortOf command.queue + graphExecutions.needs _ ≤ _ at heffort
    change effortOf command.queue + { scope with graphExecutions }.needs limit < _
    rw [needs_withGraphExecutions, needs]
    omega

/-- A scope whose sequences need as much as before. -/
theorem needs_le_of_focal (slack : Nat)
    (hdigests : after.executions.digests = before.executions.digests)
    (hgraph : after.graphExecutions = before.graphExecutions)
    (hfocal : after.focalNeeds ≤ before.focalNeeds + slack) :
    after.needs limit ≤ before.needs limit + slack := by
  rw [needs, needs, hdigests, hgraph]
  omega

/-- When the record may be lost but nothing else, at most two is due again. -/
theorem focalNeeds_le_of_origin_lost (hframes : after.framesSought = before.framesSought)
    (hfile : after.fileSought = before.fileSought) :
    after.focalNeeds ≤ before.focalNeeds + 2 := by
  have horigin := effortDue_le 2 after.originSought
  rw [focalNeeds, focalNeeds, hframes, hfile]
  omega

/-- When the frames may be others but the rest is sought as before, at most one is due
again. -/
theorem focalNeeds_le_of_frames_lost
    (horigin : before.originSought = true → after.originSought = true)
    (hfile : after.fileSought = before.fileSought) :
    after.focalNeeds ≤ before.focalNeeds + 1 := by
  have hframes := effortDue_le 1 after.framesSought
  have horigin := effortDue_mono horigin 2
  rw [focalNeeds, focalNeeds, hfile]
  omega

theorem mem_records_putAll (timeline : ExecutionTimeline) (start : Nat)
    (records : List Execution) (index : Nat) :
    index ∈ (timeline.putAll start records).records ↔
      start ≤ index ∧ index < start + records.length ∨ index ∈ timeline.records := by
  induction records generalizing timeline start with
  | nil =>
      rw [ExecutionTimeline.putAll, or_iff_right]
      rw [List.length_nil]
      omega
  | cons record rest ih =>
      rw [ExecutionTimeline.putAll, ih, List.length_cons, Std.ExtTreeMap.mem_insert,
        Std.LawfulEqOrd.compare_eq_iff_eq, ← or_assoc]
      refine or_congr_left ?_
      omega

/-- Records are held once they arrived.  Their frames may be others than those before. -/
theorem pays_executionData (scope : RunScope) (run : RunId) (now : Nat) (range : Interval)
    (records : List Execution) :
    scope.Pays limit 2 (scope.onReply run now (.executionData range records)) := by
  have hdigests := (onRecords_spec scope.executions range records).1
  rw [onReply]
  rcases hrecords : scope.executions.onRecords range records with ⟨executions, error | _⟩ <;>
    rw [hrecords] at hdigests <;> dsimp only at hdigests
  · -- refused records are not being fetched any more, so the origin may need them again
    refine needs_le_of_focal 2 hdigests rfl (focalNeeds_le_of_origin_lost ?_ rfl)
    rw [ExecutionTimeline.onRecords] at hrecords
    split_ifs at hrecords <;> cases hrecords
    rfl
  · have hsought : scope.originSought = true →
        { scope with executions }.originSought = true := by
      refine originSought_of_seeks ?_ fun origin hseeks => ?_
      · rw [focusOrigin, focusOrigin]
        exact congrArg (Option.bind scope.location) (by rw [hdigests])
      · rw [ExecutionTimeline.onRecords] at hrecords
        split_ifs at hrecords with hmisfit <;> cases hrecords
        cases origin with
        | execution index =>
            rw [seeks, decide_eq_true_eq] at hseeks ⊢
            change index ∈ (ExecutionTimeline.putAll _ range.start records).records ∨
              index ∈ (ExecutionTimeline.putAll _ range.start records).recordsInFlight
            rw [mem_records_putAll, (putAll_spec _ _ _).2, ExecutionTimeline.release]
            dsimp only
            rw [Std.ExtTreeSet.mem_filter]
            rcases hseeks with hheld | hmarked
            · exact Or.inl (Or.inr hheld)
            · by_cases hrange : index ∈ range
              · -- the records fill their range, so this one has arrived
                obtain ⟨hstart, hstop⟩ := Interval.mem_def.mp hrange
                have hfills : records.length = range.stop - range.start :=
                  not_not.mp (not_or.mp hmisfit).2
                exact Or.inl (Or.inl ⟨hstart, by omega⟩)
              · exact Or.inr ⟨hmarked, by simpa using hrange⟩
        | graphOpCreation key => exact hseeks
    have hneeds : { scope with executions }.needs limit ≤ scope.needs limit + 1 :=
      needs_le_of_focal 1 hdigests rfl (focalNeeds_le_of_frames_lost hsought rfl)
    change 0 + { scope with executions }.needs limit < _
    omega

/-- A table that takes up frames has those of both tables. -/
theorem mem_foldl_insertIfNew {table frames : FrameTable} {id : FrameId} :
    id ∈ frames.foldl (fun table id frame => table.insertIfNew id frame) table ↔
      id ∈ table ∨ id ∈ frames := by
  have hlist : ∀ (entries : List (FrameId × StackFrame)) (table : FrameTable),
      id ∈ entries.foldl (fun table entry => table.insertIfNew entry.1 entry.2) table ↔
        id ∈ table ∨ id ∈ entries.map Prod.fst := by
    intro entries
    induction entries with
    | nil => simp
    | cons head rest ih =>
        intro table
        rw [List.foldl_cons, ih, Std.ExtTreeMap.mem_insertIfNew, Std.LawfulEqOrd.compare_eq_iff_eq,
          List.map_cons, List.mem_cons]
        grind
  rw [Std.ExtTreeMap.foldl_eq_foldl_toList, hlist, Std.ExtTreeMap.map_fst_toList_eq_keys,
    Std.ExtTreeMap.mem_keys]

/-- A table that takes up frames keeps those that it has. -/
theorem getElem?_foldl_insertIfNew_of_held {table : FrameTable} (frames : FrameTable)
    {id : FrameId} {frame : StackFrame} (hheld : table[id]? = some frame) :
    (frames.foldl (fun table id frame => table.insertIfNew id frame) table)[id]? = some frame := by
  rw [Std.ExtTreeMap.foldl_eq_foldl_toList]
  induction frames.toList generalizing table with
  | nil => exact hheld
  | cons head rest ih =>
      refine ih ?_
      rw [Std.ExtTreeMap.getElem?_insertIfNew, if_neg]
      · exact hheld
      · rintro ⟨hsame, hnew⟩
        rw [Std.LawfulEqOrd.compare_eq_iff_eq] at hsame
        rw [hsame, Std.ExtTreeMap.mem_iff_isSome_getElem?, hheld] at hnew
        exact hnew rfl

/-- What was held or being fetched stays so when frames arrive. -/
theorem seeksFrame_putFrames (scope : RunScope) (frames : FrameTable) (id : FrameId)
    (hsought : scope.seeksFrame id = true) : (scope.putFrames frames).seeksFrame id = true := by
  rw [seeksFrame, decide_eq_true_eq] at hsought ⊢
  rw [putFrames, mem_foldl_insertIfNew, Std.ExtTreeSet.mem_filter]
  by_cases harrived : id ∈ frames
  · exact Or.inl (Or.inr harrived)
  · exact hsought.imp Or.inl fun hmarked => ⟨hmarked, by simpa using harrived⟩

theorem pays_stackFrames (scope : RunScope) (run : RunId) (now : Nat) (frames : FrameTable) :
    scope.Pays limit 1 (scope.onReply run now (.stackFrames frames)) := by
  have hsought : scope.framesSought = true → (scope.putFrames frames).framesSought = true :=
    framesSought_of_seeksFrame rfl rfl fun id => scope.seeksFrame_putFrames frames id
  have hframes := effortDue_mono hsought 1
  have hneeds : (scope.putFrames frames).needs limit ≤ scope.needs limit := by
    have hrest : (scope.putFrames frames).originSought = scope.originSought ∧
        (scope.putFrames frames).fileSought = scope.fileSought := ⟨rfl, rfl⟩
    refine needs_le_of_focal 0 rfl rfl ?_
    rw [focalNeeds, focalNeeds, hrest.1, hrest.2]
    omega
  change 0 + (scope.putFrames frames).needs limit < _
  omega

theorem pays_graphOpInfo (scope : RunScope) (run : RunId) (now : Nat) (op : GraphOp) :
    scope.Pays limit 2 (scope.onReply run now (.graphOpInfo op)) := by
  rw [onReply]
  rcases hloaded : scope.ops.onLoaded op with ⟨ops, error | ⟨⟨⟩⟩⟩
  · rw [OpStore.onLoaded] at hloaded
    split at hloaded <;> cases hloaded
    exact Nat.le_add_right _ 2
  · have hops : ops = (scope.ops.onLoaded op).1 := by rw [hloaded]
    have hsought : scope.originSought = true → { scope with ops }.originSought = true := by
      refine originSought_of_seeks ?_ fun origin hseeks => ?_
      · rw [focusOrigin, focusOrigin]
        dsimp only
        rw [hops, OpStore.focused_onLoaded]
      · cases origin with
        | execution index => exact hseeks
        | graphOpCreation key =>
            rw [seeks, decide_eq_true_eq] at hseeks ⊢
            rw [hops]
            exact scope.ops.seeks_onLoaded op hseeks
    -- the op is there, so at most its frames are needed, and its fetch pays for them
    have hneeds : { scope with ops }.needs limit ≤ scope.needs limit + 1 :=
      needs_le_of_focal 1 rfl rfl (focalNeeds_le_of_frames_lost hsought rfl)
    change 0 + { scope with ops }.needs limit < _
    omega

/-- A file may be listed no longer, and then its content is not sought. -/
theorem pays_sourceFileList (scope : RunScope) (run : RunId) (now : Nat)
    (files : List SourceFile) :
    scope.Pays limit 2 (scope.onReply run now (.sourceFileList files)) := by
  let sources := scope.sources.onListLoaded files now
  have hneeds : { scope with sources }.needs limit ≤ scope.needs limit + 1 := by
    refine needs_le_of_focal 1 rfl rfl ?_
    have hfile := effortDue_le 1 { scope with sources }.fileSought
    have hrest : { scope with sources }.originSought = scope.originSought ∧
        { scope with sources }.framesSought = scope.framesSought := ⟨rfl, rfl⟩
    rw [focalNeeds, focalNeeds, hrest.1, hrest.2]
    omega
  change 0 + { scope with sources }.needs limit < _
  omega

theorem pays_sourceFile (scope : RunScope) (run : RunId) (now : Nat) (file : SourceFile)
    (lines : List String) :
    scope.Pays limit 1 (scope.onReply run now (.sourceFile file lines)) := by
  rw [onReply]
  rcases hloaded : scope.sources.onFileLoaded file lines with error | sources
  · exact Nat.le_add_right _ 1
  · rw [SourceShelf.onFileLoaded] at hloaded
    have hsought : scope.fileSought = true → { scope with sources }.fileSought = true := by
      have hline : sources.focusLine = scope.sources.focusLine := by
        obtain ⟨_, _, _, rfl⟩ := SourceShelf.modifyContent_eq_ok_iff.mp hloaded
        rfl
      rw [fileSought, fileSought]
      dsimp only
      rw [hline]
      cases scope.sources.focusLine with
      | none => exact id
      | some line =>
          intro hseeks
          rw [Option.any_some, SourceShelf.seeks] at hseeks ⊢
          -- the content of the line is the one that was loaded, or it is as before
          rw [SourceShelf.content?_modifyContent hloaded]
          split_ifs
          · cases hcontent : scope.sources.content? line.file with
            | none =>
                rw [hcontent] at hseeks
                cases hseeks
            | some content => simp
          · exact hseeks
    have hneeds : { scope with sources }.needs limit ≤ scope.needs limit := by
      have hfile := effortDue_mono hsought 1
      have hrest : { scope with sources }.originSought = scope.originSought ∧
          { scope with sources }.framesSought = scope.framesSought := ⟨rfl, rfl⟩
      refine needs_le_of_focal 0 rfl rfl ?_
      rw [focalNeeds, focalNeeds, hrest.1, hrest.2]
      omega
    change 0 + { scope with sources }.needs limit < _
    omega

theorem effort_requestAlerts (scope : RunScope) (run : RunId) (alertType : AlertType) :
    effortOf (scope.requestAlerts run alertType).2.queue ≤ 2 := by
  rw [requestAlerts]
  rcases scope.alerts.requestType alertType with ⟨alerts, _ | range⟩
  · exact Nat.zero_le 2
  · exact Nat.le_refl 2

theorem pays_numAlertsAndBreakdown (scope : RunScope) (run : RunId) (now : Nat)
    (tally : AlertTally) :
    scope.Pays limit 3 (scope.onReply run now (.numAlertsAndBreakdown tally)) := by
  let tallied := { scope with alerts := (scope.alerts.onTally tally now).1 }
  have heffort : effortOf (tallied.requestFocusedAlerts run).2.queue ≤ 2 := by
    rw [requestFocusedAlerts]
    split
    · exact Nat.zero_le 2
    · exact effort_requestAlerts ..
  have hneeds : (tallied.requestFocusedAlerts run).1.needs limit = scope.needs limit := by
    rw [requestFocusedAlerts]
    split <;> rfl
  change effortOf (tallied.requestFocusedAlerts run).2.queue +
    (tallied.requestFocusedAlerts run).1.needs limit < _
  omega

/-- A movement of a window asks for one range of pages at most and touches no needs. -/
theorem effort_scroll (limit : SequenceKind → Nat) (scope : RunScope) (run : RunId)
    (kind : SequenceKind) (step : ScrollStep) :
    effortOf (Command.queueOf (scope.scroll run kind step).2) ≤ 1 ∧
      (scope.scroll run kind step).1.needs limit = scope.needs limit := by
  cases kind with
  | executions =>
      obtain ⟨hfocus, hknown, heffort⟩ := scope.executions.digests.effort_scroll run step
      refine ⟨heffort, ?_⟩
      change (scope.withDigests (scope.executions.digests.scroll run step).1).needs limit = _
      rw [needs_withDigests hfocus, Timeline.needs_congr hknown]
      rfl
  | graphExecutions =>
      obtain ⟨_, hknown, heffort⟩ := scope.graphExecutions.effort_scroll run step
      refine ⟨heffort, ?_⟩
      change { scope with
        graphExecutions := (scope.graphExecutions.scroll run step).1 }.needs limit = _
      rw [needs_withGraphExecutions, Timeline.needs_congr hknown]
      rfl

theorem pays_alertsOfType (scope : RunScope) (run : RunId) (now : Nat) (alertType : AlertType)
    (range : Interval) (tally : AlertTally) (alerts : List Alert) :
    scope.Pays limit 2 (scope.onReply run now (.alertsOfType alertType range tally alerts)) := by
  have htaken : effortOf (Command.queueOf
        ((scope.onReply run now (.alertsOfType alertType range tally alerts)).2.map Prod.fst)) ≤ 1 ∧
      (scope.onReply run now (.alertsOfType alertType range tally alerts)).1.needs limit =
        scope.needs limit := by
    refine alertsOfType_induct (motive := fun after queue =>
      effortOf queue ≤ 1 ∧ after.needs limit = scope.needs limit) now alertType range tally alerts
      ⟨Nat.zero_le 1, rfl⟩ ⟨Nat.zero_le 1, rfl⟩ ?_ fun _ _ _ hmoved => hmoved
    intro index
    exact effort_scroll limit _ run .executions (.recenter index)
  rcases hreply : scope.onReply run now (.alertsOfType alertType range tally alerts) with
    ⟨after, error | ⟨command, grew⟩⟩ <;> rw [hreply] at htaken
  · exact Nat.le_trans (Nat.le_of_eq htaken.2) (Nat.le_add_right _ 2)
  · obtain ⟨heffort, hneeds⟩ := htaken
    change effortOf command.queue ≤ 1 at heffort
    change effortOf command.queue + after.needs limit < _
    dsimp only at hneeds
    omega

/-- A reply of a recording pays for what it leads to. -/
theorem pays_onReply {recording : Recording} {request : Request} {reply : Reply}
    (hreplies : recording.Replies request reply) (scope : RunScope) (run : RunId) (now : Nat) :
    scope.Pays recording.total request.effort (scope.onReply run now reply) := by
  cases hreplies with
  | numExecutions => exact scope.pays_numExecutions run now rfl
  | numGraphExecutions => exact scope.pays_numGraphExecutions run now rfl
  | executionDigests => exact scope.pays_executionDigests run now rfl
  | graphExecutions => exact scope.pays_graphExecutions run now rfl
  | executionData => exact scope.pays_executionData run now _ _
  | stackFrames => exact scope.pays_stackFrames run now _
  | graphOpInfo => exact scope.pays_graphOpInfo run now _
  | sourceFileList => exact scope.pays_sourceFileList run now _
  | sourceFile => exact scope.pays_sourceFile run now _ _
  | numAlertsAndBreakdown => exact scope.pays_numAlertsAndBreakdown run now _
  | alertsOfType => exact scope.pays_alertsOfType run now _ _ _ _

/-! ## Failures -/

/-- A failure asks for nothing, and what it takes is worth no more than the fetch was. -/
theorem needs_onFetchFailed (scope : RunScope) (request : Request) :
    (scope.onFetchFailed request).needs limit ≤ scope.needs limit + request.effort := by
  cases request with
  | numExecutions | numGraphExecutions => exact Nat.le_add_right _ _
  | page kind range => cases kind <;> exact Nat.le_add_right _ _
  | executionData range =>
      -- the failure may lose the origin and all that depends on it, and its fetch pays for that
      exact needs_le_of_focal 2 rfl rfl (focalNeeds_le_of_origin_lost rfl rfl)
  | stackFrames ids =>
      refine needs_le_of_focal 1 rfl rfl ?_
      have hframes := effortDue_le 1 (scope.onFetchFailed (.stackFrames ids)).framesSought
      have hrest : (scope.onFetchFailed (.stackFrames ids)).originSought = scope.originSought ∧
          (scope.onFetchFailed (.stackFrames ids)).fileSought = scope.fileSought := ⟨rfl, rfl⟩
      rw [focalNeeds, focalNeeds, hrest.1, hrest.2]
      omega
  | graphOpInfo key =>
      refine needs_le_of_focal 2 rfl rfl (focalNeeds_le_of_origin_lost ?_ rfl)
      obtain ⟨phases, hfailed⟩ := scope.ops.updatePhase_eq key .failed
      rw [onFetchFailed, OpStore.onFailed, hfailed]
      rfl
  | sourceFileList => exact Nat.le_add_right _ _
  | sourceFile file =>
      refine needs_le_of_focal 1 rfl rfl ?_
      have hfile := effortDue_le 1 (scope.onFetchFailed (.sourceFile file)).fileSought
      have hrest : (scope.onFetchFailed (.sourceFile file)).originSought = scope.originSought ∧
          (scope.onFetchFailed (.sourceFile file)).framesSought = scope.framesSought := ⟨rfl, rfl⟩
      rw [focalNeeds, focalNeeds, hrest.1, hrest.2]
      omega
  | numAlertsAndBreakdown | alertsOfType => exact Nat.le_add_right _ _

/-! ## Operations of the user -/

theorem effort_recenterOnAlert (scope : RunScope) (run : RunId) (alertType : AlertType) :
    effortOf (Command.queueOf (scope.recenterOnAlert run alertType).2) ≤ 1 := by
  rw [recenterOnAlert]
  split
  · exact Nat.zero_le 1
  · exact (effort_scroll (fun _ => 0) scope run _ _).1

theorem effort_toggleAlerts (scope : RunScope) (run : RunId) (alertType : AlertType) :
    effortOf (Command.queueOf (scope.toggleAlerts run alertType).2) ≤ 3 := by
  have hmoved := effort_recenterOnAlert
    { scope with alerts := scope.alerts.toggleFocus alertType } run alertType
  rw [toggleAlerts]
  dsimp only
  split_ifs
  · exact Nat.zero_le 3
  · rcases hrecenter : recenterOnAlert _ run alertType with ⟨moved, error | recentering⟩ <;>
      rw [hrecenter] at hmoved
    · exact Nat.zero_le 3
    · have hasked := moved.effort_requestAlerts run alertType
      rw [Command.queueOf_ok] at hmoved
      rw [Command.queueOf_combine_pair, effortOf_append]
      omega

/-- An operation asks for no more than everything that grows is worth. -/
theorem effort_operate (scope : RunScope) (run : RunId) (operation : Operation) :
    effortOf (Command.queueOf (scope.operate run operation).2) ≤ 9 := by
  cases operation with
  | refresh =>
      change effortOf (scope.refresh run).2.queue ≤ 9
      rw [refresh, Command.queue_combine]
      simp only [List.flatMap_cons, List.flatMap_nil, List.append_nil, effortOf_append,
        Timeline.requestTotal, Command.queue, effortOf_cons, effortOf_nil, PendingFetch.effort,
        Timeline.effort_totalRequest]
      decide
  | scroll kind step =>
      exact Nat.le_trans (effort_scroll (fun _ => 0) scope run kind step).1 (by decide)
  | focusByOffset kind offset => exact Nat.zero_le 9
  | toggleAlerts alertType =>
      exact Nat.le_trans (scope.effort_toggleAlerts run alertType) (by decide)
  | focusOp key => exact Nat.zero_le 9
  | requestOp key =>
      rw [operate, requestOp]
      rcases scope.ops.request key with ⟨ops, _ | _⟩
      · exact Nat.zero_le 9
      · exact Nat.le_add_left 2 7
  | requestFile file =>
      rw [operate, requestFile]
      rcases scope.sources.requestFile file with error | ⟨sources, wanted⟩
      · exact Nat.zero_le 9
      · cases wanted with
        | false => exact Nat.zero_le 9
        | true => exact Nat.le_add_left 1 8

end RunScope

end TraceViewer
