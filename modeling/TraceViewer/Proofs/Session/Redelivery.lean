import TraceViewer.Proofs.Session.RepeatedReplies

/-!
# Replies that arrive again

A source may answer a fetch twice.  The second answer, right after the first, does nothing: it
is accepted, asks for nothing, and leaves the session as the first one left it, apart from its
load states (`redelivery_absorbed`).

A scope that took a reply up has all that the reply brings (`absorbs_onReply`).  Settling only
marks what is neither held nor being fetched, so the scope still has it afterwards
(`absorbs_settle`).  What a scope has changes nothing (`onReply_of_absorbs`), and as load states
make no difference to what is wanted, the scope is still settled.

A list of files that names a file twice is left out.  Both places get the content of the first
one, which settling may have marked in between.
-/

namespace TraceViewer

namespace RunScope

variable {scope after : RunScope} {run : RunId} {now : Nat} {reply : Reply}

/-- The scope without its load states. -/
def withoutLoads (scope : RunScope) : RunScope :=
  { scope.withDigests scope.executions.digests.withoutLoads with
    graphExecutions := scope.graphExecutions.withoutLoads
    alerts := { scope.alerts with load := {} }
    sources := { scope.sources with listLoad := {} } }

/-! ## What a scope has -/

/-- Whether the window and the focus are where a batch of alerts asks to look. -/
structure Shows (scope : RunScope) (target : AlertJump) : Prop where
  centered : scope.executions.digests.CenteredOn target.executionIndex
  focused : ∀ index, target.graphExecutionIndex = some index →
    scope.graphExecutions.focus = some index

theorem shows_jump {target : AlertJump} {command : Command}
    (haccepted : scope.jump run target = (after, .ok command)) : after.Shows target := by
  rw [jump, scroll] at haccepted
  rcases hscroll : scope.executions.digests.scroll run (.recenter target.executionIndex) with
    ⟨digests, error | recentering⟩ <;> rw [hscroll] at haccepted
  · cases haccepted
  · -- focusing on a graph execution leaves the window of the executions alone
    have hcentered := Timeline.centeredOn_scroll hscroll
    dsimp only at haccepted
    cases hgraph : target.graphExecutionIndex with
    | none =>
        rw [hgraph] at haccepted
        cases haccepted
        exact ⟨hcentered, by simp [hgraph]⟩
    | some index =>
        rw [hgraph] at haccepted
        cases haccepted
        exact ⟨hcentered, by rw [hgraph]; exact fun _ hsame => hsame⟩

theorem alerts_jump (scope : RunScope) (run : RunId) (target : AlertJump) :
    (scope.jump run target).1.alerts = scope.alerts := by
  rw [jump, scroll]
  rcases scope.executions.digests.scroll run (.recenter target.executionIndex) with
    ⟨digests, error | recentering⟩
  · rfl
  · cases target.graphExecutionIndex <;> rfl

theorem jump_of_shows {target : AlertJump} (hshows : scope.Shows target) (run : RunId) :
    scope.jump run target = (scope, .ok .none) := by
  -- the window is centered already, so nothing moves and no page is asked for
  have hscroll : scope.scroll run .executions (.recenter target.executionIndex) =
      (scope, .ok .none) := by
    rw [scroll, Timeline.scroll_of_centeredOn hshows.centered]
    rfl
  rw [jump, hscroll]
  dsimp only
  cases hgraph : target.graphExecutionIndex with
  | none => rfl
  | some index =>
      have hfocused : scope.graphExecutions.setFocus (some index) = scope.graphExecutions := by
        rw [← hshows.focused index hgraph]
        rfl
      dsimp only
      rw [hfocused]

theorem sought_requestFocusedAlerts (scope : RunScope) (run : RunId) :
    let board := (scope.requestFocusedAlerts run).1.alerts
    board.tally = scope.alerts.tally ∧
      ∀ alertType, board.focusType = some alertType → board.Sought alertType := by
  rw [requestFocusedAlerts]
  cases hfocus : scope.alerts.focusType with
  | none => exact ⟨rfl, by simp [hfocus]⟩
  | some focused =>
      have hsought := scope.alerts.sought_requestType focused
      obtain ⟨inFlight, load, hrequested⟩ := scope.alerts.requestType_eq focused
      change (scope.alerts.requestType focused).1.tally = _ ∧
        ∀ alertType, (scope.alerts.requestType focused).1.focusType = some alertType →
          (scope.alerts.requestType focused).1.Sought alertType
      rw [hrequested] at hsought ⊢
      refine ⟨rfl, fun alertType hsame => ?_⟩
      rw [Option.some.inj (hfocus.symm.trans hsame)] at hsought
      exact hsought

theorem requestFocusedAlerts_of_sought (hsought : ∀ alertType,
    scope.alerts.focusType = some alertType → scope.alerts.Sought alertType) (run : RunId) :
    scope.requestFocusedAlerts run = (scope, .none) := by
  rw [requestFocusedAlerts]
  cases hfocus : scope.alerts.focusType with
  | none => rfl
  | some focused =>
      dsimp only
      rw [requestAlerts, AlertBoard.requestType_of_sought (hsought focused hfocus)]
      rfl

/-- Frames that are held, and not being fetched, change nothing. -/
theorem putFrames_of_held {frames : FrameTable}
    (hheld : ∀ id ∈ frames, id ∈ scope.frames ∧ id ∉ scope.framesInFlight) :
    scope.putFrames frames = scope := by
  have hentries : ∀ entries : List (FrameId × StackFrame),
      (∀ entry ∈ entries, entry.1 ∈ scope.frames) →
        entries.foldl (fun table entry => table.insertIfNew entry.1 entry.2) scope.frames =
          scope.frames := by
    intro entries hentries
    induction entries with
    | nil => rfl
    | cons entry rest ih =>
        -- a frame that is held is not replaced
        have hfirst : scope.frames.insertIfNew entry.1 entry.2 = scope.frames := by
          refine Std.ExtTreeMap.ext_getElem? fun other => ?_
          rw [Std.ExtTreeMap.getElem?_insertIfNew, if_neg]
          exact fun hnew => hnew.2 (hentries entry List.mem_cons_self)
        rw [List.foldl_cons, hfirst]
        exact ih fun other hother => hentries other (List.mem_cons_of_mem _ hother)
  have htable : frames.foldl (fun table id frame => table.insertIfNew id frame) scope.frames =
      scope.frames := by
    rw [Std.ExtTreeMap.foldl_eq_foldl_toList]
    refine hentries _ fun entry hentry => (hheld entry.1 ?_).1
    rw [← Std.ExtTreeMap.mem_keys, ← Std.ExtTreeMap.map_fst_toList_eq_keys]
    exact List.mem_map_of_mem hentry
  have hmarks : (scope.framesInFlight.filter fun id => id ∉ frames) = scope.framesInFlight := by
    refine filter_of_kept fun id hmarked => ?_
    rw [decide_eq_true_eq]
    exact fun hid => (hheld id hid).2 hmarked
  rw [putFrames, htable, hmarks]

/-- Whether a scope has all that a reply brings, so that taking it up changes nothing but load
states. -/
def Absorbs (scope : RunScope) : Reply → Prop
  | .numExecutions total =>
    scope.executions.digests.Knows total ∧
      ¬ (0 < total ∧ scope.executions.digests.focus = none)
  | .numGraphExecutions total => scope.graphExecutions.Knows total
  | .executionDigests batch => scope.executions.digests.view.sequence.Contains batch
  | .graphExecutions batch => scope.graphExecutions.view.sequence.Contains batch
  | .executionData range records => scope.executions.HasRecords range records
  | .stackFrames frames => ∀ id ∈ frames, id ∈ scope.frames ∧ id ∉ scope.framesInFlight
  | .graphOpInfo op => ∃ key, scope.ops.HasOp op key
  | .sourceFileList files => scope.sources.Lists files
  | .sourceFile file lines => scope.sources.HasFile file lines
  | .numAlertsAndBreakdown tally =>
    scope.alerts.tally = tally ∧
      ∀ alertType, scope.alerts.focusType = some alertType → scope.alerts.Sought alertType
  | .alertsOfType alertType range tally alerts =>
    scope.alerts.HasAlerts alertType range tally alerts ∧
      ∀ target, AlertBoard.jumpOf range alerts = some target → scope.Shows target

theorem absorbs_alertsOfType {alertType : AlertType} {range : Interval} {tally : AlertTally}
    {alerts : List Alert} {result : Command × Bool}
    (haccepted : scope.onReply run now (.alertsOfType alertType range tally alerts) =
      (after, .ok result)) : after.Absorbs (.alertsOfType alertType range tally alerts) := by
  rw [onReply, onAlerts] at haccepted
  rcases hcheck : AlertBoard.checkBatch range alerts with error | _ <;> rw [hcheck] at haccepted
  · cases haccepted
  · have hheld := scope.alerts.hasAlerts_merge hcheck alertType tally now
    dsimp only at haccepted
    cases hjump : AlertBoard.jumpOf range alerts with
    | none =>
        rw [hjump] at haccepted
        cases haccepted
        exact ⟨hheld, by simp [hjump]⟩
    | some target =>
        rw [hjump] at haccepted
        dsimp only at haccepted
        let merged : RunScope :=
          { scope with alerts := scope.alerts.merge alertType range tally alerts now }
        -- the jump comes after the merge and leaves the alerts as the merge has made them
        have halerts := merged.alerts_jump run target
        rcases hmoved : merged.jump run target with ⟨moved, error | command⟩ <;>
          rw [hmoved] at haccepted halerts
        · cases haccepted
        · cases haccepted
          refine ⟨?_, fun other hother => ?_⟩
          · rw [show moved.alerts = merged.alerts from halerts]
            exact hheld
          · rw [← Option.some.inj (hjump.symm.trans hother)]
            exact shows_jump hmoved

/-- A scope has what it took up. -/
theorem absorbs_onReply (hhistoric : scope.Historic)
    (hvalid : ∀ kind, (scope.geometry kind).Valid)
    (hlist : ∀ files, reply = .sourceFileList files → files.Nodup) {result : Command × Bool}
    (haccepted : scope.onReply run now reply = (after, .ok result)) : after.Absorbs reply := by
  cases reply with
  | numExecutions total =>
      rw [onReply] at haccepted
      rcases htotal : scope.executions.digests.onTotal run total now with
        ⟨digests, error | grew⟩ <;> rw [htotal] at haccepted
      · cases haccepted
      · cases haccepted
        obtain ⟨hnumItems, hsatisfied⟩ := Timeline.knows_onTotal htotal
        rw [focusFirst]
        -- without a focus the first execution gets it, so the second time there is one
        split_ifs with hfirst
        · refine ⟨⟨hnumItems, PagedView.satisfied_setFocus hsatisfied _⟩, fun hnone => ?_⟩
          cases hnone.2
        · exact ⟨⟨hnumItems, hsatisfied⟩, hfirst⟩
  | numGraphExecutions total =>
      rw [onReply] at haccepted
      rcases htotal : scope.graphExecutions.onTotal run total now with ⟨graphExecutions, result⟩
      rw [htotal] at haccepted
      cases haccepted
      exact Timeline.knows_onTotal htotal
  | executionDigests batch =>
      rw [onReply] at haccepted
      rcases hpage : scope.executions.digests.onPage run batch now with ⟨digests, result⟩
      rw [hpage] at haccepted
      cases haccepted
      -- an accepted batch is held afterwards, whatever was held before
      exact Timeline.contains_onPage hhistoric.digests.accounted
        (PagedView.fits_of_valid (hvalid .executions)) hpage
  | graphExecutions batch =>
      rw [onReply] at haccepted
      rcases hpage : scope.graphExecutions.onPage run batch now with ⟨graphExecutions, result⟩
      rw [hpage] at haccepted
      cases haccepted
      exact Timeline.contains_onPage hhistoric.graphExecutions.accounted
        (PagedView.fits_of_valid (hvalid .graphExecutions)) hpage
  | executionData range records =>
      rw [onReply] at haccepted
      rcases hrecords : scope.executions.onRecords range records with ⟨executions, error | _⟩ <;>
        rw [hrecords] at haccepted
      · cases haccepted
      · cases haccepted
        exact ExecutionTimeline.hasRecords_onRecords hrecords
  | stackFrames frames =>
      cases haccepted
      intro id hid
      -- a frame is held afterwards, if not from this reply then from an earlier one
      rw [putFrames, mem_foldl_insertIfNew]
      exact ⟨Or.inr hid, by simp [hid]⟩
  | graphOpInfo op =>
      rw [onReply] at haccepted
      rcases hloaded : scope.ops.onLoaded op with ⟨ops, error | _⟩ <;> rw [hloaded] at haccepted
      · cases haccepted
      · cases haccepted
        exact OpStore.hasOp_onLoaded hloaded
  | sourceFileList files =>
      cases haccepted
      -- of a file that is listed twice, only the content at its first place is read
      exact SourceShelf.lists_onListLoaded _ (hlist files rfl) now
  | sourceFile file lines =>
      rw [onReply] at haccepted
      rcases hloaded : scope.sources.onFileLoaded file lines with error | sources <;>
        rw [hloaded] at haccepted
      · cases haccepted
      · cases haccepted
        exact SourceShelf.hasFile_onFileLoaded hloaded
  | numAlertsAndBreakdown tally =>
      cases haccepted
      -- the alerts of the focused type are asked for at once, so they are sought
      exact sought_requestFocusedAlerts _ run
  | alertsOfType alertType range tally alerts => exact absorbs_alertsOfType haccepted

theorem onReply_of_absorbs_alerts {alertType : AlertType} {range : Interval} {tally : AlertTally}
    {alerts : List Alert} (habsorbs : scope.Absorbs (.alertsOfType alertType range tally alerts))
    (run : RunId) (now : Nat) :
    ∃ again, scope.onReply run now (.alertsOfType alertType range tally alerts) =
        (again, .ok (.none, false)) ∧ again.withoutLoads = scope.withoutLoads := by
  obtain ⟨hhas, hshows⟩ := habsorbs
  let again : RunScope :=
    { scope with alerts := { scope.alerts with load := scope.alerts.load.finish now } }
  refine ⟨again, ?_, rfl⟩
  rw [onReply, onAlerts, hhas.fits, AlertBoard.merge_of_hasAlerts hhas]
  dsimp only
  cases hjump : AlertBoard.jumpOf range alerts with
  | none => rfl
  | some target =>
      have hshown : again.Shows target :=
        ⟨(hshows target hjump).centered, (hshows target hjump).focused⟩
      change ((again.jump run target).1, (again.jump run target).2.map _) = _
      rw [jump_of_shows hshown]
      rfl

/-- What a scope has changes nothing but load states. -/
theorem onReply_of_absorbs (habsorbs : scope.Absorbs reply) (run : RunId) (now : Nat) :
    ∃ again, scope.onReply run now reply = (again, .ok (.none, false)) ∧
      again.withoutLoads = scope.withoutLoads := by
  cases reply with
  | numExecutions total =>
      -- the total is known and there is a focus, so the first execution does not get it
      obtain ⟨hknows, hfocus⟩ := habsorbs
      obtain ⟨digests, htotal, hsame⟩ := Timeline.onTotal_of_knows hknows run now
      have hfocus : ¬ (0 < total ∧ digests.focus = none) := by
        rw [show digests.focus = digests.withoutLoads.focus from rfl, hsame]
        exact hfocus
      refine ⟨scope.withDigests digests, ?_, ?_⟩
      · rw [onReply, htotal]
        change ((scope.withDigests digests).focusFirst total, _) = _
        rw [focusFirst, if_neg (show ¬ (_ ∧ (scope.withDigests digests).executions.digests.focus =
          none) from hfocus)]
      · rw [withoutLoads, withoutLoads, ← hsame]
        rfl
  | numGraphExecutions total =>
      obtain ⟨graphExecutions, htotal, hsame⟩ := Timeline.onTotal_of_knows habsorbs run now
      refine ⟨{ scope with graphExecutions }, ?_, ?_⟩
      · rw [onReply, htotal]
      · rw [withoutLoads, withoutLoads, ← hsame]
        rfl
  | executionDigests batch =>
      obtain ⟨digests, hpage, hsame⟩ := Timeline.onPage_of_contains habsorbs run now
      refine ⟨scope.withDigests digests, ?_, ?_⟩
      · rw [onReply, hpage]
      · rw [withoutLoads, withoutLoads, ← hsame]
        rfl
  | graphExecutions batch =>
      obtain ⟨graphExecutions, hpage, hsame⟩ := Timeline.onPage_of_contains habsorbs run now
      refine ⟨{ scope with graphExecutions }, ?_, ?_⟩
      · rw [onReply, hpage]
      · rw [withoutLoads, withoutLoads, ← hsame]
        rfl
  | executionData range records =>
      refine ⟨scope, ?_, rfl⟩
      rw [onReply, ExecutionTimeline.onRecords_of_hasRecords habsorbs]
      rfl
  | stackFrames frames =>
      refine ⟨scope, ?_, rfl⟩
      rw [onReply, putFrames_of_held habsorbs]
  | graphOpInfo op =>
      obtain ⟨key, hhas⟩ := habsorbs
      refine ⟨scope, ?_, rfl⟩
      rw [onReply, OpStore.onLoaded_of_hasOp hhas]
      rfl
  | sourceFileList files =>
      refine ⟨{ scope with sources := scope.sources.onListLoaded files now }, rfl, ?_⟩
      rw [SourceShelf.onListLoaded_of_lists habsorbs]
      rfl
  | sourceFile file lines =>
      refine ⟨scope, ?_, rfl⟩
      rw [onReply, SourceShelf.onFileLoaded_of_hasFile habsorbs]
  | numAlertsAndBreakdown tally =>
      -- the tally is the same, and the alerts of the focused type are sought already
      obtain ⟨rfl, hsought⟩ := habsorbs
      let again : RunScope :=
        { scope with alerts := { scope.alerts with load := scope.alerts.load.finish now } }
      have hsought : ∀ alertType, again.alerts.focusType = some alertType →
          again.alerts.Sought alertType := hsought
      have hquiet := requestFocusedAlerts_of_sought hsought run
      refine ⟨again, ?_, rfl⟩
      change ((again.requestFocusedAlerts run).1,
        Except.ok ((again.requestFocusedAlerts run).2, _)) = _
      rw [hquiet, decide_eq_false (Nat.lt_irrefl _)]
  | alertsOfType alertType range tally alerts => exact onReply_of_absorbs_alerts habsorbs run now

/-! ## Settling in between -/

theorem absorbs_followed (habsorbs : scope.Absorbs reply) (sticky : Bool) :
    (scope.followed sticky).Absorbs reply := by
  obtain ⟨focusLine, hfollowed, _⟩ := scope.followed_eq sticky
  rw [hfollowed]
  cases reply with
  | sourceFileList files => exact ⟨habsorbs.nodup, habsorbs.files_eq, habsorbs.length_eq⟩
  | sourceFile file lines => exact habsorbs
  | alertsOfType alertType range tally alerts =>
      exact ⟨habsorbs.1, fun target htarget =>
        ⟨(habsorbs.2 target htarget).centered, (habsorbs.2 target htarget).focused⟩⟩
  | _ => exact habsorbs

/-- What is marked is not what a scope already has. -/
theorem absorbs_grant {wants : Wants} (hlacks : scope.Lacks wants)
    (habsorbs : scope.Absorbs reply) : (scope.grant wants).Absorbs reply := by
  obtain ⟨origin, frames, file⟩ := wants
  cases reply with
  | executionData range records =>
      cases origin with
      | none => exact habsorbs
      | some origin =>
          cases origin with
          -- what is wanted is lacking, so it is no part of what is held of the reply
          | execution index => exact habsorbs.mark (hlacks.not_mem_records rfl)
          | graphOpCreation key => exact habsorbs
  | stackFrames arrived =>
      intro id hid
      refine ⟨(habsorbs id hid).1, fun hmarked => ?_⟩
      change id ∈ scope.framesInFlight.insertMany frames at hmarked
      rw [Std.ExtTreeSet.mem_insertMany_list] at hmarked
      rcases hmarked with hmarked | hwanted
      · exact (habsorbs id hid).2 hmarked
      · exact hlacks.not_mem_frames (by simpa using hwanted) (habsorbs id hid).1
  | graphOpInfo op =>
      obtain ⟨held, hhas⟩ := habsorbs
      refine ⟨held, ?_⟩
      cases origin with
      | none => exact hhas
      | some origin =>
          cases origin with
          | execution index => exact hhas
          | graphOpCreation key => exact hhas.mark (hlacks.not_isSome_op? rfl)
  | sourceFileList files =>
      cases file with
      | none => exact habsorbs
      | some marked => exact habsorbs.mark marked
  | sourceFile arrived lines =>
      cases file with
      | none => exact habsorbs
      | some marked => exact habsorbs.mark (hlacks.file marked rfl)
  | alertsOfType alertType range tally alerts =>
      refine ⟨habsorbs.1, fun target htarget => ⟨?_, (habsorbs.2 target htarget).focused⟩⟩
      have hcentered := (habsorbs.2 target htarget).centered
      cases origin with
      | none => exact hcentered
      | some origin => cases origin <;> exact hcentered
  | _ =>
      cases origin with
      | none => exact habsorbs
      | some origin => cases origin <;> exact habsorbs

theorem absorbs_settle (habsorbs : scope.Absorbs reply) (run : RunId) (sticky : Bool) :
    (scope.settle run sticky).1.Absorbs reply := by
  rw [settle_eq_grant, ← scope.wants_followed sticky]
  exact absorbs_grant (lacks_wants _) (absorbs_followed habsorbs sticky)

/-- Settling does not look at load states. -/
theorem Settled.of_withoutLoads {before : RunScope} {sticky : Bool}
    (hsettled : before.Settled sticky) (hsame : after.withoutLoads = before.withoutLoads) :
    after.Settled sticky where
  wants_eq := by
    have hwants : after.withoutLoads.wants = before.withoutLoads.wants := by rw [hsame]
    exact hwants.trans hsettled.wants_eq
  placed := by
    have htarget : after.withoutLoads.target = before.withoutLoads.target := by rw [hsame]
    exact fun hsticky => htarget.trans (hsettled.placed hsticky)

end RunScope

/-! ## Sessions -/

namespace Session

variable {session : Session} {run : RunId} {reply : Reply}

/-- The session without its load states. -/
def withoutLoads (session : Session) : Session :=
  { session with runsLoad := {}, scope := session.scope.withoutLoads }

theorem settle_settle (session : Session) :
    session.settle.1.settle = (session.settle.1, .none) := by
  rcases Option.eq_none_or_eq_some session.activeRun with hactive | ⟨run, hactive⟩
  · rw [settle_of_none hactive, settle_of_none hactive]
  · have hsettled : session.settle.1.activeRun = some run := by
      rw [activeRun_settle]
      exact hactive
    rw [settle_of_some hsettled, settle_of_some hactive]
    have hquiet := RunScope.settle_of_settled
      (session.scope.settled_settle run session.stickyFocus) run
    dsimp only
    rw [hquiet]

theorem apply_loaded_again {settled : Session} (hactive : settled.activeRun = some run)
    (habsorbs : settled.scope.Absorbs reply)
    (hsettled : settled.scope.Settled settled.stickyFocus) (now : Nat) :
    let again := settled.apply (.loaded run reply) now
    again.2 = .ok .none ∧ again.1.withoutLoads = settled.withoutLoads := by
  obtain ⟨scope, hreply, hsame⟩ := RunScope.onReply_of_absorbs habsorbs run now
  have hquiet := RunScope.settle_of_settled (hsettled.of_withoutLoads hsame) run
  have hagain : settled.apply (.loaded run reply) now = ({ settled with scope }, .ok .none) := by
    rw [apply_loaded hactive, hreply, conclude, hquiet]
    rfl
  rw [hagain]
  refine ⟨rfl, ?_⟩
  rw [withoutLoads, withoutLoads, hsame]

/-- A reply that was accepted, whatever it says, is accepted again right afterwards.  It then
asks for nothing, and changes nothing but load states.  Only a list of source files may not
name a file twice. -/
theorem redelivery_absorbed (config : Config) (valid : config.Valid)
    (history : List (Event × Nat)) (run : RunId) (reply : Reply) (now : Nat)
    (hlist : ∀ files, reply = .sourceFileList files → files.Nodup)
    (haccepted : (((fresh config valid).applyAll history).apply (.loaded run reply) now).2.isOk =
      true) :
    let taken := (((fresh config valid).applyAll history).apply (.loaded run reply) now).1
    let again := taken.apply (.loaded run reply) now
    again.2 = .ok .none ∧ again.1.withoutLoads = taken.withoutLoads := by
  have hhistoric := historic_applyAll config valid history
  have hshaped := shaped_applyAll config valid history
  generalize (fresh config valid).applyAll history = session at haccepted hhistoric hshaped ⊢
  by_cases hactive : session.activeRun = some run
  · rw [apply_loaded hactive] at haccepted ⊢
    rcases htaken : session.scope.onReply run now reply with ⟨scope, error | ⟨asked, grew⟩⟩ <;>
      rw [htaken] at haccepted
    · cases haccepted
    · have hactive : (session.conclude run now (scope, .ok (asked, grew))).1.activeRun =
          some run := hactive
      -- the reply is absorbed when it is accepted, and settling does not undo it
      have habsorbs := RunScope.absorbs_onReply hhistoric hshaped.valid hlist htaken
      exact apply_loaded_again hactive (RunScope.absorbs_settle habsorbs run _)
        (scope.settled_settle run session.stickyFocus) now
  · have hinactive : session.settle.1.activeRun ≠ some run := by
      rw [activeRun_settle]
      exact hactive
    rw [apply_loaded_inactive hactive]
    intro taken again
    have hagain : again = (session.settle.1, .ok .none) := by
      change session.settle.1.apply (.loaded run reply) now = _
      rw [apply_loaded_inactive hinactive, settle_settle]
      rfl
    rw [hagain]
    exact ⟨rfl, rfl⟩

/-- Of three executions only one is known. -/
def oneKnown : List (Event × Nat) :=
  [(.activeRunChanged (some "a"), 0), (.loaded "a" (.numExecutions 1), 1)]

/-- The page that has the first of three executions. -/
def firstOfThree : Reply := .executionDigests ⟨⟨0, 1⟩, [⟨"Add", []⟩], 3⟩

/-- The page asks for itself, now that there are more executions, but only once. -/
theorem redelivery_absorbed_while_growing :
    let taken := ((fresh {} (by decide)).applyAll oneKnown).apply (.loaded "a" firstOfThree) 2
    let again := taken.1.apply (.loaded "a" firstOfThree) 2
    Command.queueOf taken.2 = [.data "a" (.page .executions ⟨0, 3⟩)] ∧
      again.2 = .ok .none ∧ again.1.withoutLoads = taken.1.withoutLoads := by
  refine ⟨by decide +kernel, ?_⟩
  exact redelivery_absorbed {} (by decide) oneKnown "a" firstOfThree 2 nofun (by decide +kernel)

end Session

end TraceViewer
