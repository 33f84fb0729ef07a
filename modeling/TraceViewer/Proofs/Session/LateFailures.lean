import TraceViewer.Proofs.Session.OpHistories

/-!
# Failures that come late

A fetch may fail after what it was for has arrived in another way: a file that was being fetched
was dropped from the list and is listed again, so that it was fetched twice, or an op came along
with one that reads it.  Such a failure takes nothing of what is held, and touches nothing but one
stage of loading (`late_failures`).  But that it does touch.

* A file that was loaded has failed, and keeps its lines.  As settling asks for the content of
  the focused file when it failed (`mem_settle_file`), the lines are fetched again if the focused
  line is in the file, or as soon as a line of it is clicked (`FailsFile`).
* An op that is held has failed if it was asked for since the run was selected, and has no stage
  otherwise (`isSome_phase?_iff_asked`).  It is not asked for again as long as the run stays
  selected, so the stage is that of a fetch that nobody makes (`FailsOp`).
-/

namespace TraceViewer

/-! ## Scopes -/

namespace SourceShelf

/-- Only the contents change. -/
theorem onFileFailed_eq (shelf : SourceShelf) (file : SourceFile) :
    ∃ contents, shelf.onFileFailed file = { shelf with contents } := by
  rw [onFileFailed]
  split
  · exact ⟨shelf.contents, rfl⟩
  · next hmodify =>
      obtain ⟨_, _, _, rfl⟩ := modifyContent_eq_ok_iff.mp hmodify
      exact ⟨_, rfl⟩

end SourceShelf

/-- Settling asks for the file of the focused line, if its content is neither held nor being
fetched, and for no other. -/
theorem RunScope.mem_settle_file (scope : RunScope) (run : RunId) (sticky : Bool)
    (file : SourceFile) :
    .file file ∈ dataOf (scope.settle run sticky).2.queue ↔
      (∃ line, scope.sources.focusLine = some line ∧ line.file = file) ∧
        scope.sources.lacks file = true := by
  have hwanted : .file file ∈ scope.wants.data ↔ scope.wantedFile = some file := by
    rw [Wants.mem_data]
    constructor
    · -- neither the origin nor the frames of its trace are files
      rintro (⟨origin, _, hdatum⟩ | ⟨id, _, hdatum⟩ | ⟨wanted, hwanted, hdatum⟩)
      · cases origin <;> cases hdatum
      · cases hdatum
      · cases hdatum
        exact hwanted
    · exact fun hwanted => Or.inr (Or.inr ⟨file, hwanted, rfl⟩)
  rw [settle_eq_grant, Wants.data_command, hwanted, wantedFile, Option.filter_eq_some_iff,
    Option.map_eq_some_iff]

namespace Session

variable {session : Session} {run : RunId}

/-! ## Late failures -/

theorem apply_fetchFailed_active (hactive : session.activeRun = some run) (request : Request)
    (now : Nat) :
    session.apply (.fetchFailed run request) now =
      ({ session with scope := session.scope.onFetchFailed request }, .ok .none) :=
  (apply_of_failure rfl).trans (reduce_fetchFailed now hactive request)

/-- What becomes of a session when the fetch of a file fails whose content it has. -/
structure FailsFile (session after : Session) (file : SourceFile) (content : FileContent) :
    Prop where
  /-- Nothing changes but the contents of the files. -/
  elsewhere : ∃ contents, after = { session with
    scope := { session.scope with sources := { session.scope.sources with contents } } }
  others : ∀ other, file ≠ other →
    after.scope.sources.content? other = session.scope.sources.content? other
  /-- The lines stay, but the content has failed. -/
  failed : after.scope.sources.content? file = some { content with phase := .failed }
  /-- Settling would not have asked for the file. -/
  unasked : .file file ∉ dataOf session.settle.2.queue
  /-- Settling asks for the file when the focused line is in it. -/
  asked : .file file ∈ dataOf after.settle.2.queue ↔
    ∃ line, session.scope.sources.focusLine = some line ∧ line.file = file
  /-- A click on any of its lines asks for the file. -/
  clicked : ∀ line now, line.file = file →
    .file file ∈ after.asked (.sourceLineClicked line) now

theorem mem_asked_click (hactive : session.activeRun = some run) {line : StackFrame}
    (hlacks : session.scope.sources.lacks line.file = true) (now : Nat) :
    .file line.file ∈ session.asked (.sourceLineClicked line) now := by
  let clicked := session.onLineClicked line
  have hclicked : session.reduce now (.sourceLineClicked line) = (clicked, .ok .none) := rfl
  have hstays : clicked.activeRun = some run := hactive
  rw [Session.asked, apply_of_ok hclicked rfl, Command.queueOf_combine_pair, dataOf_append,
    settle_of_some hstays, List.mem_append, RunScope.mem_settle_file]
  exact Or.inr ⟨⟨line, rfl, rfl⟩, hlacks⟩

theorem failsFile {file : SourceFile} {content : FileContent}
    (hactive : session.activeRun = some run)
    (hcontent : session.scope.sources.content? file = some content)
    (hloaded : content.phase = .loaded) :
    session.FailsFile
      { session with scope := session.scope.onFetchFailed (.sourceFile file) } file content := by
  obtain ⟨contents, hshelf⟩ := session.scope.sources.onFileFailed_eq file
  let after : Session := { session with scope := session.scope.onFetchFailed (.sourceFile file) }
  have hstays : after.activeRun = some run := hactive
  have hfailed : after.scope.sources.content? file = some { content with phase := .failed } := by
    refine (session.scope.sources.content?_onFileFailed file file).trans ?_
    rw [if_pos rfl, hcontent, Option.map_some]
  have hlacks : after.scope.sources.lacks file = true := by
    rw [SourceShelf.lacks, hfailed]
    simp
  -- before the failure nothing is wanted of the file, and after it its content is
  have hheld : session.scope.sources.lacks file = false := by
    rw [SourceShelf.lacks, hcontent]
    simp [hloaded]
  constructor
  case elsewhere => exact ⟨contents, by rw [RunScope.onFetchFailed, hshelf]⟩
  case others =>
    intro other hother
    exact (session.scope.sources.content?_onFileFailed file other).trans (if_neg hother)
  case failed => exact hfailed
  case unasked =>
    rw [settle_of_some hactive, RunScope.mem_settle_file, hheld]
    exact fun hasked => Bool.false_ne_true hasked.2
  case asked =>
    have hline : after.scope.sources.focusLine = session.scope.sources.focusLine := by
      change (session.scope.sources.onFileFailed file).focusLine = _
      rw [hshelf]
    rw [settle_of_some hstays, RunScope.mem_settle_file, hline,
      and_iff_left hlacks]
  case clicked =>
    rintro line now rfl
    exact mem_asked_click hstays hlacks now

/-- What becomes of a session when the fetch of an op fails that it holds, if it asked for some
data since the run was selected. -/
structure FailsOp (session after : Session) (key : GraphOpKey) (asked : List Datum) : Prop where
  /-- Nothing changes but the stages of the ops. -/
  elsewhere : ∃ phases, after = { session with
    scope := { session.scope with ops := { session.scope.ops with phases } } }
  others : ∀ other, key ≠ other → after.scope.ops.phase other = session.scope.ops.phase other
  /-- The op has failed if it was ever asked for. -/
  phase_eq : after.scope.ops.phase key = if .op key ∈ asked then .failed else .notLoaded
  /-- It is not asked for again, whatever happens while the run stays selected. -/
  unasked : ∀ between last, after.staysAlong (between ++ [last]) = true →
    .op key ∉ (after.applyAll between).asked last.1 last.2

theorem failsOp {key : GraphOpKey} {asked : List Datum}
    (hheld : (session.scope.ops.op? key).isSome = true)
    (hstage : (session.scope.ops.phase? key).isSome = true ↔ .op key ∈ asked) :
    session.FailsOp
      { session with scope := session.scope.onFetchFailed (.graphOpInfo key) } key asked := by
  have hphase : (session.scope.ops.onFailed key).phase? key =
      (session.scope.ops.phase? key).map fun _ => .failed := by
    rw [OpStore.onFailed, OpStore.phase?_updatePhase, if_pos rfl]
  constructor
  case elsewhere =>
    obtain ⟨phases, hfailed⟩ := session.scope.ops.updatePhase_eq key .failed
    exact ⟨phases, by rw [RunScope.onFetchFailed, OpStore.onFailed, hfailed]⟩
  case others =>
    intro other hother
    exact session.scope.ops.phase_updatePhase_of_ne hother .failed
  case phase_eq =>
    change (session.scope.ops.onFailed key).phase key = _
    rw [OpStore.phase, hphase]
    -- a stage is only made for an op that is asked for, and a failure makes none
    split_ifs with hasked
    · obtain ⟨phase, hsome⟩ := Option.isSome_iff_exists.mp (hstage.mpr hasked)
      rw [hsome, Option.map_some, Option.getD_some]
    · have hnone : session.scope.ops.phase? key = none :=
        Option.not_isSome_iff_eq_none.mp fun hsome => hasked (hstage.mp hsome)
      rw [hnone, Option.map_none, Option.getD_none]
  case unasked =>
    intro between last hstays
    -- an op is asked for while it is not held, whatever its stage
    refine not_mem_asked_of_held hstays ?_
    change ((session.scope.ops.onFailed key).op? key).isSome
    rw [OpStore.onFailed, OpStore.op?_updatePhase]
    exact hheld

/-- Whatever came before, a failed fetch of a file that is loaded leaves its lines but makes them
be fetched again, and a failed fetch of an op that is held leaves the op but says that it failed,
if it was asked for since the run was selected.  A failure for a run that is not active does
nothing. -/
theorem late_failures (config : Config) (valid : config.Valid) (history : List (Event × Nat))
    (run : RunId) (now : Nat) :
    let session := (fresh config valid).applyAll history
    (session.activeRun ≠ some run → ∀ request,
      session.apply (.fetchFailed run request) now = (session, .ok .none)) ∧
    (session.activeRun = some run →
      (∀ file content, session.scope.sources.content? file = some content →
        content.phase = .loaded →
          ∃ after, session.apply (.fetchFailed run (.sourceFile file)) now = (after, .ok .none) ∧
            session.FailsFile after file content) ∧
      (∀ key, (session.scope.ops.op? key).isSome = true →
        ∃ after, session.apply (.fetchFailed run (.graphOpInfo key)) now = (after, .ok .none) ∧
          session.FailsOp after key ((fresh config valid).askedSince [] history))) := by
  intro session
  refine ⟨fun hinactive request => ?_, fun hactive => ⟨?_, ?_⟩⟩
  · exact drops_fetchFailed hinactive request now
  · intro file content hcontent hloaded
    exact ⟨_, apply_fetchFailed_active hactive _ now, failsFile hactive hcontent hloaded⟩
  · intro key hheld
    exact ⟨_, apply_fetchFailed_active hactive _ now,
      failsOp hheld (isSome_phase?_iff_asked config valid history key)⟩

/-- A file that is being fetched is dropped from the list, and listed again before its lines
arrive.  An op that is being fetched arrives with an op that reads it. -/
def loadedMeanwhile : List (Event × Nat) :=
  [(.activeRunChanged (some "a"), 0),
    (.loaded "a" (.sourceFileList [Sample.file "main.py"]), 1),
    (.sourceLineClicked (Sample.frame "main.py" 3 "main"), 2),
    (.loaded "a" (.sourceFileList []), 3),
    (.loaded "a" (.sourceFileList [Sample.file "main.py"]), 4),
    (.loaded "a" (.sourceFile (Sample.file "main.py") ["import math"]), 5),
    (.graphOpFocused ⟨"g", "x"⟩, 6),
    (.graphOpInfoRequested ⟨"g", "y"⟩, 7),
    (.loaded "a" (.graphOpInfo { Sample.graphOp "g" "y" [] [] with
      inputs := [⟨"x", 0, some (Sample.graphOp "g" "x" [] [])⟩] }), 8)]

/-- The file was asked for twice and the op once before they arrived. -/
theorem late_failures_meanwhile :
    let session := (fresh {} (by decide)).applyAll loadedMeanwhile
    let file := Sample.file "main.py"
    let key : GraphOpKey := ⟨"g", "x"⟩
    session.scope.sources.content? file = some ⟨.loaded, some ["import math"]⟩ ∧
      (session.scope.ops.op? key).isSome = true ∧
      (∃ after, session.apply (.fetchFailed "a" (.sourceFile file)) 9 = (after, .ok .none) ∧
        after.scope.sources.content? file = some ⟨.failed, some ["import math"]⟩ ∧
        .file file ∈ dataOf after.settle.2.queue) ∧
      ∃ after, session.apply (.fetchFailed "a" (.graphOpInfo key)) 9 = (after, .ok .none) ∧
        after.scope.ops.phase key = .failed ∧
        .op key ∉ after.asked (.graphOpInfoRequested key) 10 := by
  intro session file key
  have hcontent : session.scope.sources.content? file = some ⟨.loaded, some ["import math"]⟩ := by
    decide +kernel
  have hheld : (session.scope.ops.op? key).isSome = true := by decide +kernel
  obtain ⟨_, hlate⟩ := late_failures {} (by decide) loadedMeanwhile "a" 9
  obtain ⟨hfile, hop⟩ := hlate (by decide +kernel)
  -- both answers came through another fetch, so the failures are late
  obtain ⟨failedFile, hfileApplied, hfails⟩ := hfile file _ hcontent rfl
  obtain ⟨failedOp, hopApplied, hopFails⟩ := hop key hheld
  refine ⟨hcontent, hheld, ⟨failedFile, hfileApplied, hfails.failed, hfails.asked.mpr ?_⟩,
    failedOp, hopApplied, ?_, hopFails.unasked [] (.graphOpInfoRequested key, 10) rfl⟩
  · exact ⟨Sample.frame "main.py" 3 "main", by decide +kernel, by decide⟩
  · rw [hopFails.phase_eq]
    exact if_pos (by decide +kernel)

/-- A failure that comes late does not always leave a loaded file loaded and unasked for, nor does
it always leave a held op without a failure. -/
theorem late_failures_not_harmless :
    (¬ ∀ (config : Config) (valid : config.Valid) (history : List (Event × Nat)) (run : RunId)
      (file : SourceFile) (now : Nat),
      let session := (fresh config valid).applyAll history
      let after := (session.apply (.fetchFailed run (.sourceFile file)) now).1
      (session.scope.sources.content? file).map (·.phase) = some .loaded →
        (after.scope.sources.content? file).map (·.phase) = some .loaded ∧
          .file file ∉ dataOf after.settle.2.queue) ∧
    ¬ ∀ (config : Config) (valid : config.Valid) (history : List (Event × Nat)) (run : RunId)
      (key : GraphOpKey) (now : Nat),
      let session := (fresh config valid).applyAll history
      let after := (session.apply (.fetchFailed run (.graphOpInfo key)) now).1
      (session.scope.ops.op? key).isSome = true → after.scope.ops.phase key ≠ .failed := by
  constructor
  · intro hall
    have hloaded := (hall {} (by decide) loadedMeanwhile "a" (Sample.file "main.py") 9
      (by decide +kernel)).1
    exact absurd hloaded (by decide +kernel)
  · intro hall
    exact hall {} (by decide) loadedMeanwhile "a" ⟨"g", "x"⟩ 9 (by decide +kernel)
      (by decide +kernel)

end Session

end TraceViewer
