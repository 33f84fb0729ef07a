import TraceViewer.Proofs.Session.Tending

/-!
# The sticky line

A sticky line is where the current stack trace leaves its file, whatever came before
(`sticky_line`).  The trace may change in many ways: the focus moves, a record or a frame
arrives, an op is replaced, another kind of location is followed, the line becomes sticky.  But
there are only three ways out of an event.

* The session settled, and the line has followed the trace (`placed_settle`).
* The event was refused.  Then nothing changed that the trace or the line depends on
  (`Intact.target_eq`).
* A fetch failed.  Then nothing changed but marks and load states (`target_unmarked`).

Without an active run a session does not settle, but then no trace is followed either
(`location_reduce`).

Between clicks and selections the line stays in its file, and it stays where it is unless it is
sticky (`focusLine_apply`).  A click makes the line sticky exactly when it is in its place, so it
is not moved on at once (`apply_click`).
-/

namespace TraceViewer

namespace RunScope

variable {scope before after : RunScope} {active : Option RunId} {event : Event}
  {queue : List PendingFetch}

/-! ## Lines in their place -/

/-- Whether the line in focus, if the current stack trace enters its file, is where the trace
leaves the file last. -/
def InPlace (scope : RunScope) : Prop :=
  ∀ frames line, scope.currentFrames = some frames → scope.sources.focusLine = some line →
    (∃ frame ∈ frames, frame.isInFile line.file = true) →
      StackTrace.lastInFile frames line.file = some line

/-- A line is in its place when it need not move. -/
theorem inPlace_of_target (hplaced : scope.target = none) : scope.InPlace := by
  rintro frames line hframes hline ⟨frame, hmem, hfile⟩
  rw [target, hframes, Option.bind_some, hline, Option.bind_some, StackTrace.follow] at hplaced
  cases hlast : StackTrace.lastInFile frames line.file with
  | none =>
      rw [StackTrace.lastInFile, List.getLast?_eq_none_iff, List.filter_eq_nil_iff] at hlast
      exact absurd hfile (hlast frame hmem)
  | some last =>
      rw [hlast, Option.filter_some] at hplaced
      by_contra hmoved
      rw [if_pos (by simpa using hmoved)] at hplaced
      cases hplaced

/-- Marks and load states do not matter to where a line belongs. -/
theorem target_unmarked (scope : RunScope) : scope.unmarked.target = scope.target := rfl

theorem target_of_location (hnowhere : scope.location = none) : scope.target = none := by
  rw [target, currentFrames, focusOrigin, hnowhere]
  rfl

/-- What is refused moves no line from its place. -/
theorem Intact.target_eq (hintact : before.Intact after) : after.target = before.target := by
  have horigin : after.focusOrigin = before.focusOrigin := by
    rw [focusOrigin, focusOrigin, hintact.location_eq, hintact.ops_eq, Timeline.focus,
      hintact.digests.window_eq, Timeline.focus]
  have hids : after.originFrameIds = before.originFrameIds := by
    funext origin
    cases origin with
    | execution index => rw [originFrameIds, originFrameIds, hintact.records_eq]
    | graphOpCreation key => rw [originFrameIds, originFrameIds, hintact.ops_eq]
  have hframes : after.framesOf = before.framesOf := by
    funext origin
    rw [framesOf, framesOf, hids, hintact.frames_eq]
  rw [target, target, currentFrames, currentFrames, horigin, hframes, hintact.sources_eq]

/-! ## Responses -/

/-- Nothing but a click changes the line in focus before the scope settles. -/
theorem focusLine_responds (hresponds : Responds active event before after queue)
    (hline : ∀ frame, event ≠ .sourceLineClicked frame) :
    after.sources.focusLine = before.sources.focusLine := by
  cases hresponds with
  | rest => rfl
  | operate run _ _ operation => exact (before.moves_operate run operation).focusLine_eq
  | click _ frame => exact absurd rfl (hline frame)
  | reply run now reply => exact (before.moves_onReply run now reply).focusLine_eq
  | fail run request => exact (before.moves_onFetchFailed run request).focusLine_eq

/-- Without an active run, no stack trace becomes the current one. -/
theorem location_responds (hresponds : Responds none event before after queue) :
    after.location = before.location := by
  cases hresponds <;> rfl

/-- Settling moves the line within its file, and only if the line is sticky. -/
theorem focusLine_settle (scope : RunScope) (run : RunId) (sticky : Bool) :
    (scope.settle run sticky).1.sources.focusLine.map (·.file) =
        scope.sources.focusLine.map (·.file) ∧
      (sticky = false →
        (scope.settle run sticky).1.sources.focusLine = scope.sources.focusLine) := by
  rw [(scope.moves_settle run sticky).focusLine_eq]
  refine ⟨?_, ?_⟩
  · obtain ⟨focusLine, hfollowed, hfile⟩ := scope.followed_eq sticky
    rw [hfollowed]
    exact hfile
  · rintro rfl
    rfl

end RunScope

namespace Session

variable {session : Session} {event : Event} {now : Nat}

/-! ## Sessions -/

/-- Whether a sticky line need not move.  Without an active run there is no stack trace. -/
structure Placed (session : Session) : Prop where
  unfollowed : session.activeRun = none → session.scope.location = none
  target_eq : session.stickyFocus = true → session.scope.target = none

theorem placed_fresh (config : Config) (valid : config.Valid) : (fresh config valid).Placed :=
  ⟨fun _ => rfl, fun _ => rfl⟩

theorem location_reduce (hplaced : session.Placed) (event : Event) (now : Nat)
    (hactive : (session.reduce now event).1.activeRun = none) :
    (session.reduce now event).1.scope.location = none := by
  have hresponds := session.responds_reduce event now
  rw [hactive] at hresponds
  rw [RunScope.location_responds hresponds]
  cases hselects : session.selects event with
  | true =>
      -- a new scope has no line
      rw [scopeFor, if_pos hselects]
      rfl
  | false =>
      rw [activeRun_of_not_selects hselects] at hactive
      rw [scopeFor_of_stays hselects]
      exact hplaced.unfollowed hactive

/-- A session whose line is in its place settles into another. -/
theorem placed_settle (hunfollowed : session.activeRun = none → session.scope.location = none) :
    session.settle.1.Placed := by
  rcases Option.eq_none_or_eq_some session.activeRun with hactive | ⟨run, hactive⟩
  · rw [settle_of_none hactive]
    exact ⟨hunfollowed, fun _ => RunScope.target_of_location (hunfollowed hactive)⟩
  · rw [settle_of_some hactive]
    refine ⟨fun hnone => ?_, (session.scope.settled_settle run session.stickyFocus).placed⟩
    rw [hactive] at hnone
    cases hnone

/-- An event that is refused moves nothing, and nor does a failed fetch.  After any other event
the line follows the trace. -/
theorem placed_apply (hshaped : session.Shaped) (hplaced : session.Placed) (event : Event)
    (now : Nat) : (session.apply event now).1.Placed := by
  rcases hreduced : session.reduce now event with ⟨reduced, error | command⟩
  · -- a refused event leaves the line and the flag as they were
    have hintact := intact_reduce hshaped hreduced
    rw [apply_of_error hreduced]
    refine ⟨fun hactive => ?_, fun hsticky => ?_⟩
    · rw [hintact.activeRun_eq] at hactive
      rw [hintact.scope.location_eq]
      exact hplaced.unfollowed hactive
    · rw [hintact.stickyFocus_eq] at hsticky
      rw [hintact.scope.target_eq]
      exact hplaced.target_eq hsticky
  · by_cases hfailure : ∃ run request, event = .fetchFailed run request
    · obtain ⟨run, request, rfl⟩ := hfailure
      obtain ⟨after, hafter, hsame⟩ := session.apply_fetchFailed run request now
      rw [hafter]
      refine ⟨fun hactive => ?_, fun hsticky => ?_⟩
      · have hbefore : session.activeRun = none :=
          (congrArg Session.activeRun hsame).symm.trans hactive
        exact (congrArg (fun session : Session => session.scope.location) hsame).trans
          (hplaced.unfollowed hbefore)
      · have hbefore : session.stickyFocus = true :=
          (congrArg Session.stickyFocus hsame).symm.trans hsticky
        have hscope : after.scope.unmarked = session.scope.unmarked := congrArg Session.scope hsame
        rw [← RunScope.target_unmarked, hscope, RunScope.target_unmarked]
        exact hplaced.target_eq hbefore
    · have hanswer : event.isFetchFailure = false := by
        cases event with
        | fetchFailed run request => exact absurd ⟨run, request, rfl⟩ hfailure
        | _ => rfl
      -- settling puts the line in its place, unless there is no run
      have hunfollowed := location_reduce hplaced event now
      rw [hreduced] at hunfollowed
      rw [apply_of_ok hreduced hanswer]
      exact placed_settle hunfollowed

theorem placed_applyAll (config : Config) (valid : config.Valid) (history : List (Event × Nat)) :
    ((fresh config valid).applyAll history).Placed := by
  have hfresh : (fresh config valid).Shaped ∧ (fresh config valid).Placed :=
    ⟨geometry_fresh config valid, placed_fresh config valid⟩
  refine (applyAll_preserves (motive := fun session => session.Shaped ∧ session.Placed)
    (fun session event now => ?_) hfresh history).2
  rintro ⟨hshaped, hplaced⟩
  exact ⟨(session.reshapes_apply event now).shaped hshaped,
    placed_apply hshaped hplaced event now⟩

/-- The line in focus stays in its file, unless another line is clicked or a run is selected. -/
theorem focusLine_apply (hstays : session.selects event = false)
    (hline : ∀ frame, event ≠ .sourceLineClicked frame) (now : Nat) :
    let after := (session.apply event now).1
    after.scope.sources.focusLine.map (·.file) =
        session.scope.sources.focusLine.map (·.file) ∧
      (after.stickyFocus = false →
        after.scope.sources.focusLine = session.scope.sources.focusLine) := by
  have hreduced := RunScope.focusLine_responds (session.responds_reduce event now) hline
  rw [scopeFor_of_stays hstays] at hreduced
  rw [← hreduced]
  -- the transition does not move the line, and settling keeps its file
  rcases session.apply_cases event now with hsame | ⟨reduced, command, hresult, hsettled⟩
  · rw [hsame]
    exact ⟨rfl, fun _ => rfl⟩
  · rw [hsettled, hresult]
    rcases Option.eq_none_or_eq_some reduced.activeRun with hactive | ⟨run, hactive⟩
    · rw [settle_of_none hactive]
      exact ⟨rfl, fun _ => rfl⟩
    · rw [settle_of_some hactive]
      exact reduced.scope.focusLine_settle run reduced.stickyFocus

/-- A clicked line is sticky when the current stack trace leaves its file there. -/
theorem isStickyClick_iff {frame : StackFrame} {frames : Option (List StackFrame)} :
    StackTrace.isStickyClick frame (frames.getD []) = true ↔
      ∃ trace, frames = some trace ∧
        StackTrace.lastInFile trace frame.file = some frame := by
  cases frames with
  | none => simp [StackTrace.isStickyClick, StackTrace.lastInFile]
  | some trace => simp [StackTrace.isStickyClick]

/-- A click puts the focus on the line, and it is sticky exactly when it is in its place. -/
theorem apply_click (session : Session) (frame : StackFrame) (now : Nat) :
    let after := (session.apply (.sourceLineClicked frame) now).1
    after.scope.sources.focusLine = some frame ∧
      (after.stickyFocus = true ↔ ∃ frames, after.scope.currentFrames = some frames ∧
        StackTrace.lastInFile frames frame.file = some frame) := by
  have hreduced : session.reduce now (.sourceLineClicked frame) =
      (session.onLineClicked frame, .ok .none) := rfl
  have hsticky : (session.onLineClicked frame).stickyFocus = true ↔
      ∃ frames, session.scope.currentFrames = some frames ∧
        StackTrace.lastInFile frames frame.file = some frame := isStickyClick_iff
  rw [apply_of_ok hreduced rfl]
  rcases Option.eq_none_or_eq_some (session.onLineClicked frame).activeRun with
    hactive | ⟨run, hactive⟩
  · rw [settle_of_none hactive]
    exact ⟨rfl, hsticky⟩
  · -- a sticky line is in its place already, so it does not move on
    have hplaced : (session.onLineClicked frame).stickyFocus = true →
        (session.scope.setFocusLine frame).target = none := by
      intro hstuck
      obtain ⟨frames, hframes, hlast⟩ := hsticky.mp hstuck
      change session.scope.currentFrames.bind
        (fun frames => (some frame).bind (StackTrace.follow frames)) = none
      rw [hframes, Option.bind_some, Option.bind_some, StackTrace.follow, hlast]
      simp
    rw [settle_of_some hactive, RunScope.settle_eq_grant]
    dsimp only
    rw [RunScope.focusLine_grant, RunScope.currentFrames_grant]
    change ((session.scope.setFocusLine frame).followed _).sources.focusLine = _ ∧
      (_ ↔ ∃ frames, ((session.scope.setFocusLine frame).followed _).currentFrames = _ ∧ _)
    rw [RunScope.followed_of_placed hplaced]
    exact ⟨rfl, hsticky⟩

/-- Whatever came before, a sticky line is where the stack trace leaves its file, a line that is
not clicked stays in its file, and it moves only when it is sticky. -/
theorem sticky_line (config : Config) (valid : config.Valid) (history : List (Event × Nat))
    (event : Event) (now : Nat) :
    let session := (fresh config valid).applyAll history
    let after := (session.apply event now).1
    (session.stickyFocus = true → session.scope.InPlace) ∧
      (session.selects event = false → (∀ frame, event ≠ .sourceLineClicked frame) →
        after.scope.sources.focusLine.map (·.file) =
            session.scope.sources.focusLine.map (·.file) ∧
          (after.stickyFocus = false →
            after.scope.sources.focusLine = session.scope.sources.focusLine)) ∧
      ∀ frame, event = .sourceLineClicked frame →
        after.scope.sources.focusLine = some frame ∧
          (after.stickyFocus = true ↔ ∃ frames, after.scope.currentFrames = some frames ∧
            StackTrace.lastInFile frames frame.file = some frame) := by
  intro session after
  refine ⟨fun hsticky => ?_, fun hstays hline => ?_, ?_⟩
  · -- nothing is left to follow, so the line is in its place
    exact RunScope.inPlace_of_target ((placed_applyAll config valid history).target_eq hsticky)
  · exact focusLine_apply hstays hline now
  · rintro frame rfl
    exact session.apply_click frame now

/-- The traces of two executions leave a file at lines 5 and 7.  A click on line 5 was sticky, so
when the focus goes to the second execution, the line moves to 7.  A click on line 1 is not. -/
theorem line_follows_second_trace :
    let frame (lineNumber : UInt32) : StackFrame := ⟨"host", "main.py", lineNumber, "main"⟩
    let record (frameIds : List FrameId) : Execution := { (default : Execution) with frameIds }
    let history : List (Event × Nat) :=
      [(.activeRunChanged (some "a"), 0), (.loaded "a" (.numExecutions 2), 1),
        (.loaded "a" (.executionData ⟨0, 2⟩ [record ["f", "g"], record ["f", "h"]]), 2),
        (.loaded "a" (.stackFrames (.ofList [("f", frame 1), ("g", frame 5), ("h", frame 7)])), 3),
        (.sourceLineClicked (frame 5), 4)]
    let session := (fresh {} (by decide)).applyAll history
    let moved := (session.apply (.focusByDisplayOffset .executions 1) 5).1
    let clicked := (session.apply (.sourceLineClicked (frame 1)) 5).1
    session.scope.sources.focusLine = some (frame 5) ∧ session.stickyFocus = true ∧
      session.scope.InPlace ∧ moved.scope.sources.focusLine = some (frame 7) ∧
      moved.scope.sources.focusLine.map (·.file) = session.scope.sources.focusLine.map (·.file) ∧
      clicked.scope.sources.focusLine = some (frame 1) ∧ clicked.stickyFocus = false := by
  intro frame record history
  have hsticky : ((fresh {} (by decide)).applyAll history).stickyFocus = true := by
    decide +kernel
  have hmove := sticky_line {} (by decide) history (.focusByDisplayOffset .executions 1) 5
  have hclick := sticky_line {} (by decide) history (.sourceLineClicked (frame 1)) 5
  refine ⟨by decide +kernel, hsticky, hmove.1 hsticky, by decide +kernel, ?_, ?_,
    by decide +kernel⟩
  · exact (hmove.2.1 rfl (by simp)).1
  · exact (hclick.2.2 (frame 1) rfl).1

end Session

end TraceViewer
