import TraceViewer.Proofs.Session.TimelineEffort

/-!
# The needs of a scope

What the scope of a run may still ask for on its own account are its *needs*: a page for
each total that it does not know yet, the record and the frames of the origin, and the
file of the focused line.  What is held or being fetched is *sought*, and only what is
not sought is needed.

Settling pays for what it asks out of the needs (`effort_settle`): whatever it asks for
was not sought before, and is sought afterwards.
-/

namespace TraceViewer

namespace SourceShelf

/-- Whether the content of a file is held or being fetched. -/
def seeks (shelf : SourceShelf) (file : SourceFile) : Bool :=
  (shelf.content? file).any fun content => content.phase = .loading ∨ content.phase = .loaded

/-- Changing the content of a file changes no other. -/
theorem content?_modifyContent {shelf marked : SourceShelf} {file : SourceFile}
    {change : FileContent → FileContent} (hmodify : shelf.modifyContent file change = .ok marked)
    (other : SourceFile) :
    marked.content? other =
      if file = other then (shelf.content? other).map change else shelf.content? other := by
  obtain ⟨place, hplace, _, rfl⟩ := modifyContent_eq_ok_iff.mp hmodify
  rw [content?, content?]
  change (shelf.index? other).bind
    (fun index => (shelf.contents.modify place change)[index]?) = _
  by_cases hsame : file = other
  · subst hsame
    rw [if_pos rfl, hplace, Option.bind_some, Option.bind_some, List.getElem?_modify_eq]
    rfl
  · rw [if_neg hsame]
    cases hother : shelf.index? other with
    | none => rfl
    | some index =>
        rw [Option.bind_some, Option.bind_some, List.getElem?_modify_ne]
        -- another file is listed in another place
        rintro rfl
        have hfile := (getElem?_of_index? hplace).symm.trans (getElem?_of_index? hother)
        exact hsame (Option.some.inj hfile)

/-- A file that is asked for was not sought, and is sought then. -/
theorem seeks_of_requestFile {shelf marked : SourceShelf} {file : SourceFile}
    (hrequest : shelf.requestFile file = .ok (marked, true)) :
    shelf.seeks file = false ∧ marked.seeks file = true := by
  rw [requestFile] at hrequest
  cases hcontent : shelf.content? file with
  | none =>
      rw [hcontent] at hrequest
      cases hrequest
  | some content =>
      have hasked : (do return (← shelf.modifyContent file fun content =>
            { content with phase := .loading }, true)) = Except.ok (marked, true) →
          marked.seeks file = true := by
        intro hmarked
        rcases hmodify : shelf.modifyContent file fun content =>
          { content with phase := .loading } with error | modified <;> rw [hmodify] at hmarked
        · cases hmarked
        · cases hmarked
          rw [seeks, content?_modifyContent hmodify, if_pos rfl, hcontent]
          simp
      rw [hcontent] at hrequest
      rw [seeks, hcontent, Option.any_some]
      dsimp only at hrequest
      split at hrequest
      · cases hrequest
      · cases hrequest
      · rename_i hphase
        exact ⟨by simp [hphase], hasked hrequest⟩
      · rename_i hphase
        exact ⟨by simp [hphase], hasked hrequest⟩

end SourceShelf

/-- The effort that is due for something of a certain effort that may be sought already. -/
def effortDue (effort : Nat) (sought : Bool) : Nat := if sought then 0 else effort

theorem effortDue_le (effort : Nat) (sought : Bool) : effortDue effort sought ≤ effort := by
  rw [effortDue]
  split_ifs <;> omega

@[simp]
theorem effortDue_true (effort : Nat) : effortDue effort true = 0 := rfl

@[simp]
theorem effortDue_false (effort : Nat) : effortDue effort false = effort := rfl

/-- What is still sought causes no further effort. -/
theorem effortDue_mono {before after : Bool} (himp : before = true → after = true)
    (effort : Nat) : effortDue effort after ≤ effortDue effort before := by
  cases before with
  | false => exact effortDue_le effort after
  | true => exact Nat.le_of_eq (by rw [himp rfl])

namespace RunScope

variable {limit : SequenceKind → Nat} {scope before after : RunScope} {run : RunId}

/-! ## Needs -/

/-- Whether the record or the op of an origin is held or being fetched. -/
def seeks (scope : RunScope) : FocusOrigin → Bool
  | .execution index =>
    index ∈ scope.executions.records ∨ index ∈ scope.executions.recordsInFlight
  | .graphOpCreation key => (scope.ops.op? key).isSome ∨ scope.ops.phase key = .loading

/-- Whether a frame is held or being fetched. -/
def seeksFrame (scope : RunScope) (id : FrameId) : Bool :=
  id ∈ scope.frames ∨ id ∈ scope.framesInFlight

/-- Whether there is an origin, and its record or op is held or being fetched. -/
def originSought (scope : RunScope) : Bool := scope.focusOrigin.any scope.seeks

/-- Whether the frames of the origin are known, and each is held or being fetched. -/
def framesSought (scope : RunScope) : Bool :=
  (scope.focusOrigin.bind scope.originFrameIds).any (·.all scope.seeksFrame)

/-- Whether there is a focused line, and its file is held or being fetched. -/
def fileSought (scope : RunScope) : Bool :=
  scope.sources.focusLine.any fun line => scope.sources.seeks line.file

/-- What the focus of a scope may still ask for. -/
def focalNeeds (scope : RunScope) : Nat :=
  effortDue 2 scope.originSought + effortDue 1 scope.framesSought + effortDue 1 scope.fileSought

/-- What a scope may still ask for on its own account, when its run has `limit` items of
each sequence. -/
def needs (limit : SequenceKind → Nat) (scope : RunScope) : Nat :=
  scope.executions.digests.needs (limit .executions) +
    scope.graphExecutions.needs (limit .graphExecutions) + scope.focalNeeds

theorem focalNeeds_le (scope : RunScope) : scope.focalNeeds ≤ 4 := by
  have horigin := effortDue_le 2 scope.originSought
  have hframes := effortDue_le 1 scope.framesSought
  have hfile := effortDue_le 1 scope.fileSought
  rw [focalNeeds]
  omega

theorem needs_le (limit : SequenceKind → Nat) (scope : RunScope) : scope.needs limit ≤ 6 := by
  have hdigests := scope.executions.digests.needs_le (limit .executions)
  have hgraph := scope.graphExecutions.needs_le (limit .graphExecutions)
  have hfocal := scope.focalNeeds_le
  rw [needs]
  omega

/-- The needs of the focus depend on the digests through their focus only. -/
theorem focalNeeds_withDigests {digests : Timeline ExecutionDigest}
    (hfocus : digests.focus = scope.executions.digests.focus) :
    (scope.withDigests digests).focalNeeds = scope.focalNeeds := by
  have horigin : (scope.withDigests digests).focusOrigin = scope.focusOrigin := by
    rw [focusOrigin, focusOrigin]
    exact congrArg (Option.bind scope.location) (by rw [withDigests, hfocus])
  rw [focalNeeds, originSought, framesSought, horigin]
  rfl

theorem needs_withDigests {digests : Timeline ExecutionDigest}
    (hfocus : digests.focus = scope.executions.digests.focus) :
    (scope.withDigests digests).needs limit =
      digests.needs (limit .executions) +
        scope.graphExecutions.needs (limit .graphExecutions) + scope.focalNeeds := by
  rw [needs, focalNeeds_withDigests hfocus]
  rfl

theorem needs_withGraphExecutions (scope : RunScope) (graphExecutions : Timeline GraphExecution) :
    { scope with graphExecutions }.needs limit =
      scope.executions.digests.needs (limit .executions) +
        graphExecutions.needs (limit .graphExecutions) + scope.focalNeeds := rfl

/-- What is held or being fetched for the origin stays so. -/
theorem originSought_of_seeks (horigin : after.focusOrigin = before.focusOrigin)
    (hseeks : ∀ origin, before.seeks origin = true → after.seeks origin = true)
    (hsought : before.originSought = true) : after.originSought = true := by
  rw [originSought] at hsought ⊢
  rw [horigin]
  cases hbefore : before.focusOrigin with
  | none =>
      rw [hbefore] at hsought
      cases hsought
  | some origin =>
      rw [hbefore] at hsought
      exact hseeks origin hsought

/-- What is held or being fetched of the frames of the origin stays so. -/
theorem framesSought_of_seeksFrame (horigin : after.focusOrigin = before.focusOrigin)
    (hids : after.originFrameIds = before.originFrameIds)
    (hseeks : ∀ id, before.seeksFrame id = true → after.seeksFrame id = true)
    (hsought : before.framesSought = true) : after.framesSought = true := by
  rw [framesSought] at hsought ⊢
  rw [horigin, hids]
  cases hnames : before.focusOrigin.bind before.originFrameIds with
  | none =>
      rw [hnames] at hsought
      cases hsought
  | some ids =>
      rw [hnames, Option.any_some, List.all_eq_true] at hsought
      rw [Option.any_some, List.all_eq_true]
      exact fun id hid => hseeks id (hsought id hid)

/-! ## Settling -/

theorem effort_requestOrigin (scope : RunScope) (run : RunId) :
    effortOf (scope.requestOrigin run).2.queue + (scope.requestOrigin run).1.focalNeeds ≤
      scope.focalNeeds := by
  have hrest : (scope.requestOrigin run).1.framesSought = scope.framesSought ∧
      (scope.requestOrigin run).1.fileSought = scope.fileSought := by
    obtain ⟨recordsInFlight, phases, hrequested⟩ := scope.requestOrigin_eq run
    rw [hrequested]
    exact ⟨rfl, rfl⟩
  -- frames and file are sought as before, so only the record or op counts
  suffices horigin : effortOf (scope.requestOrigin run).2.queue +
      effortDue 2 (scope.requestOrigin run).1.originSought ≤ effortDue 2 scope.originSought by
    rw [focalNeeds, focalNeeds, hrest.1, hrest.2]
    omega
  rw [requestOrigin]
  cases horigin : scope.focusOrigin with
  | none => simp
  | some origin =>
      cases origin with
      | execution index =>
          dsimp only
          rw [ExecutionTimeline.requestRecord]
          split_ifs with hheld
          · simp
          · -- the two steps that were due for the record are in the queue now
            have hbefore : scope.originSought = false := by
              rw [originSought, horigin]
              simp only [not_or] at hheld
              simp [seeks, hheld.2.1, hheld.2.2]
            have hafter : originSought { scope with
                executions := { scope.executions with
                  recordsInFlight := scope.executions.recordsInFlight.insert index } } = true := by
              rw [originSought]
              change scope.focusOrigin.any _ = true
              rw [horigin]
              simp [seeks]
            rw [hbefore, hafter]
            exact Nat.le_refl 2
      | graphOpCreation key =>
          dsimp only
          rw [requestOp, OpStore.request]
          split_ifs with hheld
          · simp
          · have hbefore : scope.originSought = false := by
              rw [originSought, horigin]
              simpa [seeks] using hheld
            have hafter : originSought { scope with ops := scope.ops.setPhase key .loading } =
                true := by
              rw [originSought]
              change scope.focusOrigin.any _ = true
              rw [horigin]
              simp [seeks, OpStore.phase_setPhase]
            rw [hbefore]
            dsimp only
            rw [hafter]
            exact Nat.le_refl 2

/-- The frames that are missing are those of the origin that are not sought. -/
theorem mem_missingFrames {ids : List FrameId}
    (hids : scope.focusOrigin.bind scope.originFrameIds = some ids) {id : FrameId} :
    id ∈ scope.missingFrames ↔ id ∈ ids ∧ scope.seeksFrame id = false := by
  rw [missingFrames, hids, Option.map_some, Option.getD_some, StackTrace.missingIds,
    StackTrace.mem_firstOccurrences, List.mem_filter]
  simp [seeksFrame]

theorem effort_requestMissingFrames (scope : RunScope) (run : RunId) :
    effortOf (scope.requestMissingFrames run).2.queue +
      (scope.requestMissingFrames run).1.focalNeeds ≤ scope.focalNeeds := by
  rw [requestMissingFrames]
  cases hmissing : scope.missingFrames with
  | nil => simp
  | cons first rest =>
      -- some frames are missing, so the ids of the origin are known
      obtain ⟨ids, hids⟩ : ∃ ids, scope.focusOrigin.bind scope.originFrameIds = some ids := by
        rw [← Option.ne_none_iff_exists']
        intro hnone
        rw [missingFrames, hnone] at hmissing
        cases hmissing
      have hmem : ∀ id, id ∈ first :: rest ↔ id ∈ ids ∧ scope.seeksFrame id = false :=
        fun id => hmissing ▸ mem_missingFrames hids
      let marked := { scope with
        framesInFlight := scope.framesInFlight.insertMany (first :: rest) }
      have hbefore : scope.framesSought = false := by
        obtain ⟨hid, hunsought⟩ := (hmem first).mp List.mem_cons_self
        rw [framesSought, hids, Option.any_some, List.all_eq_false]
        exact ⟨first, hid, by simp [hunsought]⟩
      have hafter : marked.framesSought = true := by
        rw [framesSought]
        change (scope.focusOrigin.bind scope.originFrameIds).any _ = true
        rw [hids, Option.any_some, List.all_eq_true]
        intro id hid
        rw [seeksFrame, decide_eq_true_eq, Std.ExtTreeSet.mem_insertMany_list,
          List.contains_iff_mem]
        by_cases hsought : scope.seeksFrame id = true
        · rw [seeksFrame, decide_eq_true_eq] at hsought
          exact hsought.imp_right Or.inl
        · exact Or.inr (Or.inr ((hmem id).mpr ⟨hid, by simpa using hsought⟩))
      have hrest : marked.originSought = scope.originSought ∧
          marked.fileSought = scope.fileSought := ⟨rfl, rfl⟩
      change effortOf [.data run (.stackFrames (first :: rest))] + marked.focalNeeds ≤ _
      rw [focalNeeds, focalNeeds, hbefore, hafter, hrest.1, hrest.2]
      simp only [effortOf_cons, effortOf_nil, PendingFetch.effort, Request.effort,
        effortDue_true, effortDue_false]
      omega

/-- The focused line stays in its file, which is sought as before. -/
theorem focalNeeds_followLastFrame (scope : RunScope) :
    scope.followLastFrame.focalNeeds = scope.focalNeeds := by
  rcases scope.followLastFrame_eq with hsame | ⟨line, target, hline, hfile, hmoved⟩
  · rw [hsame]
  · have hsought : (scope.setFocusLine target).fileSought = scope.fileSought := by
      rw [fileSought, fileSought, hline]
      change scope.sources.seeks target.file = scope.sources.seeks line.file
      rw [hfile]
    have hrest : (scope.setFocusLine target).originSought = scope.originSought ∧
        (scope.setFocusLine target).framesSought = scope.framesSought := ⟨rfl, rfl⟩
    rw [hmoved, focalNeeds, focalNeeds, hsought, hrest.1, hrest.2]

theorem effort_requestFocusedFile (scope : RunScope) (run : RunId) :
    effortOf (scope.requestFocusedFile run).2.queue +
      (scope.requestFocusedFile run).1.focalNeeds ≤ scope.focalNeeds := by
  rw [requestFocusedFile]
  cases hline : scope.sources.focusLine with
  | none => simp
  | some line =>
      dsimp only
      rw [requestFile]
      rcases hrequest : scope.sources.requestFile line.file with error | ⟨sources, wanted⟩
      · simp
      · cases wanted with
        | false =>
            rcases scope.sources.requestFile_spec line.file with ⟨error, hspec⟩ | hspec |
              ⟨marked, _, hspec⟩ <;> rw [hspec] at hrequest <;> cases hrequest
            simp
        | true =>
            obtain ⟨hbefore, hafter⟩ := SourceShelf.seeks_of_requestFile hrequest
            have hsame : sources.focusLine = scope.sources.focusLine := by
              obtain ⟨contents, hasked⟩ := scope.requestFile_eq run line.file
              rw [requestFile, hrequest] at hasked
              exact congrArg (fun scope => scope.sources.focusLine) hasked
            have hunsought : scope.fileSought = false := by
              rw [fileSought, hline]
              exact hbefore
            have hsought : { scope with sources }.fileSought = true := by
              rw [fileSought]
              change sources.focusLine.any _ = true
              rw [hsame, hline]
              exact hafter
            have hrest : { scope with sources }.originSought = scope.originSought ∧
                { scope with sources }.framesSought = scope.framesSought := ⟨rfl, rfl⟩
            change effortOf [.data run (.sourceFile line.file)] +
              { scope with sources }.focalNeeds ≤ _
            rw [focalNeeds, focalNeeds, hunsought, hsought, hrest.1, hrest.2]
            simp only [effortOf_cons, effortOf_nil, PendingFetch.effort, Request.effort,
              effortDue_true, effortDue_false]
            omega

/-- Settling pays for what it asks out of the needs. -/
theorem effort_settle (scope : RunScope) (run : RunId) (sticky : Bool) :
    effortOf (scope.settle run sticky).2.queue + (scope.settle run sticky).1.needs limit ≤
      scope.needs limit := by
  have horigin := scope.effort_requestOrigin run
  let framed := ((scope.requestOrigin run).1.requestMissingFrames run).1
  have hframes : effortOf ((scope.requestOrigin run).1.requestMissingFrames run).2.queue +
      framed.focalNeeds ≤ (scope.requestOrigin run).1.focalNeeds :=
    effort_requestMissingFrames _ run
  let followed := if sticky then framed.followLastFrame else framed
  have hfollowed : followed.focalNeeds = framed.focalNeeds := by
    change (if sticky then framed.followLastFrame else framed).focalNeeds = _
    split_ifs
    · exact framed.focalNeeds_followLastFrame
    · rfl
  have hfile := followed.effort_requestFocusedFile run
  -- the needs of the sequences are those before
  have hsequences : (scope.settle run sticky).1.needs limit =
      scope.executions.digests.needs (limit .executions) +
        scope.graphExecutions.needs (limit .graphExecutions) +
        (followed.requestFocusedFile run).1.focalNeeds := by
    obtain ⟨_, _, _, _, _, hsettled⟩ := scope.settle_eq run sticky
    have hfocal : (scope.settle run sticky).1.focalNeeds =
        (followed.requestFocusedFile run).1.focalNeeds := rfl
    rw [needs, hfocal, hsettled]
  have hqueue : effortOf (scope.settle run sticky).2.queue =
      effortOf (scope.requestOrigin run).2.queue +
        (effortOf ((scope.requestOrigin run).1.requestMissingFrames run).2.queue +
          effortOf (followed.requestFocusedFile run).2.queue) := by
    rw [settle, Command.queue_combine]
    simp only [List.flatMap_cons, List.flatMap_nil, List.append_nil, effortOf_append]
    rfl
  rw [hsequences, hqueue, needs]
  omega

end RunScope

end TraceViewer
