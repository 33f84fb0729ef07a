import TraceViewer.Proofs.Session.ScopeMarks

/-!
# What settling changes

Settling sets marks and may move the focused line; that is all (`settle_eq`).  There is
one lemma for each of its four steps, so that an invariant of a scope need only be looked
at where the step writes.
-/

namespace TraceViewer.RunScope

/-- The record, or the op, of the origin is marked as being fetched. -/
theorem requestOrigin_eq (scope : RunScope) (run : RunId) :
    ∃ recordsInFlight phases, (scope.requestOrigin run).1 =
      { scope with
        executions := { scope.executions with recordsInFlight }
        ops := { scope.ops with phases } } := by
  rw [requestOrigin]
  split
  · exact ⟨scope.executions.recordsInFlight, scope.ops.phases, rfl⟩
  · rename_i index _
    rw [ExecutionTimeline.requestRecord]
    split_ifs
    · exact ⟨scope.executions.recordsInFlight, scope.ops.phases, rfl⟩
    · exact ⟨scope.executions.recordsInFlight.insert index, scope.ops.phases, rfl⟩
  · rename_i key _
    rw [requestOp, OpStore.request]
    split_ifs
    · exact ⟨scope.executions.recordsInFlight, scope.ops.phases, rfl⟩
    · exact ⟨scope.executions.recordsInFlight, _, rfl⟩

/-- Frames are marked as being fetched. -/
theorem requestMissingFrames_eq (scope : RunScope) (run : RunId) :
    ∃ framesInFlight, (scope.requestMissingFrames run).1 = { scope with framesInFlight } := by
  rw [requestMissingFrames]
  split
  · exact ⟨scope.framesInFlight, rfl⟩
  · exact ⟨_, rfl⟩

/-- The focused line moves within its file, if it moves. -/
theorem followLastFrame_eq (scope : RunScope) :
    scope.followLastFrame = scope ∨
      ∃ line target : StackFrame, scope.sources.focusLine = some line ∧
        target.file = line.file ∧ scope.followLastFrame = scope.setFocusLine target := by
  rw [followLastFrame]
  split
  · rename_i frames line _ hline
    cases hfollow : StackTrace.follow frames line with
    | none => exact Or.inl rfl
    | some target =>
        refine Or.inr ⟨line, target, hline, ?_, rfl⟩
        -- the target is one of the frames that lie in the file
        rw [StackTrace.follow, Option.filter_eq_some_iff, StackTrace.lastInFile] at hfollow
        have hmem := List.mem_of_getLast? hfollow.1
        exact StackFrame.isInFile_iff.mp (List.mem_filter.mp hmem).2
  · exact Or.inl rfl

/-- The content of a file is marked as being fetched. -/
theorem requestFile_eq (scope : RunScope) (run : RunId) (file : SourceFile) :
    ∃ contents, (scope.requestFile run file).1 =
      { scope with sources := { scope.sources with contents } } := by
  rw [requestFile]
  rcases scope.sources.requestFile_spec file with ⟨error, hrequest⟩ | hrequest |
    ⟨marked, hmodify, hrequest⟩
  · rw [hrequest]
    exact ⟨scope.sources.contents, rfl⟩
  · rw [hrequest]
    exact ⟨scope.sources.contents, rfl⟩
  · obtain ⟨_, _, _, rfl⟩ := SourceShelf.modifyContent_eq_ok_iff.mp hmodify
    rw [hrequest]
    exact ⟨_, rfl⟩

theorem requestFocusedFile_eq (scope : RunScope) (run : RunId) :
    ∃ contents, (scope.requestFocusedFile run).1 =
      { scope with sources := { scope.sources with contents } } := by
  rw [requestFocusedFile]
  cases scope.sources.focusLine with
  | none => exact ⟨scope.sources.contents, rfl⟩
  | some line =>
      obtain ⟨contents, hrequested⟩ := scope.requestFile_eq run line.file
      dsimp only
      rcases hfile : scope.requestFile run line.file with ⟨requested, error | command⟩
      · exact ⟨scope.sources.contents, rfl⟩
      · rw [hfile] at hrequested
        exact ⟨contents, hrequested⟩

/-- What settling does after it asked for the record or the op of the origin. -/
theorem settle_after_origin (scope : RunScope) (run : RunId) (sticky : Bool) :
    ∃ framesInFlight contents focusLine, (scope.settle run sticky).1 =
      { (scope.requestOrigin run).1 with
        framesInFlight
        sources := { (scope.requestOrigin run).1.sources with contents, focusLine } } := by
  obtain ⟨framesInFlight, hframes⟩ := (scope.requestOrigin run).1.requestMissingFrames_eq run
  have hfollowed : ∀ framed : RunScope, ∃ focusLine,
      (if sticky then framed.followLastFrame else framed) =
        { framed with sources := { framed.sources with focusLine } } := by
    intro framed
    split_ifs
    · rcases framed.followLastFrame_eq with hsame | ⟨_, target, _, _, hmoved⟩
      · exact ⟨framed.sources.focusLine, hsame⟩
      · exact ⟨some target, hmoved⟩
    · exact ⟨framed.sources.focusLine, rfl⟩
  obtain ⟨focusLine, hline⟩ :=
    hfollowed ((scope.requestOrigin run).1.requestMissingFrames run).1
  obtain ⟨contents, hfile⟩ := requestFocusedFile_eq
    (if sticky then ((scope.requestOrigin run).1.requestMissingFrames run).1.followLastFrame
      else ((scope.requestOrigin run).1.requestMissingFrames run).1) run
  refine ⟨framesInFlight, contents, focusLine, ?_⟩
  rw [settle]
  dsimp only
  rw [hfile, hline, hframes]

/-- Settling touches marks and the focused line, and nothing else. -/
theorem settle_eq (scope : RunScope) (run : RunId) (sticky : Bool) :
    ∃ recordsInFlight phases framesInFlight contents focusLine,
      (scope.settle run sticky).1 =
        { scope with
          executions := { scope.executions with recordsInFlight }
          ops := { scope.ops with phases }
          framesInFlight
          sources := { scope.sources with contents, focusLine } } := by
  obtain ⟨recordsInFlight, phases, horigin⟩ := scope.requestOrigin_eq run
  obtain ⟨framesInFlight, contents, focusLine, hsettled⟩ := scope.settle_after_origin run sticky
  refine ⟨recordsInFlight, phases, framesInFlight, contents, focusLine, ?_⟩
  rw [hsettled, horigin]

end TraceViewer.RunScope
