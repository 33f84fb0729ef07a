import TraceViewer.Proofs.Session.ScopeNeeds

/-!
# What settling asks for

Settling takes four steps, and none of the earlier ones changes what a later one looks at.
So all that it asks for can be read off the scope before the first step: the record or the
op of the origin, the frames of its trace, and the file of the focused line, each only if it
is neither held nor being fetched (`RunScope.wants`).  Settling moves the focused line, sets
the marks of what is wanted, and asks for that (`settle_eq_grant`).

What was asked for is no longer wanted, and a line that has followed the trace is in its
place.  A scope that has settled is therefore *settled* (`settled_settle`): settling again
changes nothing and asks for nothing (`settle_of_settled`).

A session settles after every reply that is accepted, and after one for another run, which it
drops (`apply_loaded`, `apply_loaded_inactive`).
-/

namespace TraceViewer

/-! ## Source files -/

namespace SourceShelf

variable {shelf : SourceShelf} {file : SourceFile}

/-- Whether a file is listed and its content is neither held nor being fetched. -/
def lacks (shelf : SourceShelf) (file : SourceFile) : Bool :=
  (shelf.content? file).any fun content => content.phase = .notLoaded ∨ content.phase = .failed

/-- Mark the content of a file as being fetched, if the file is listed. -/
def markLoading (shelf : SourceShelf) (file : SourceFile) : SourceShelf :=
  { shelf with
    contents := (shelf.index? file).elim shelf.contents fun place =>
      shelf.contents.modify place fun content => { content with phase := .loading } }

theorem modifyContent_of_content? {content : FileContent}
    (hcontent : shelf.content? file = some content) :
    shelf.modifyContent file (fun content => { content with phase := .loading }) =
      .ok (shelf.markLoading file) := by
  obtain ⟨place, hplace, hfound⟩ := Option.bind_eq_some_iff.mp hcontent
  refine modifyContent_eq_ok_iff.mpr
    ⟨place, hplace, (List.getElem?_eq_some_iff.mp hfound).1, ?_⟩
  rw [markLoading, hplace, Option.elim_some]

/-- A file without content is not marked. -/
theorem markLoading_of_content?_eq_none (hcontent : shelf.content? file = none) :
    shelf.markLoading file = shelf := by
  rw [content?] at hcontent
  rw [markLoading]
  cases hplace : shelf.index? file with
  | none => rfl
  | some place =>
      rw [hplace, Option.bind_some, List.getElem?_eq_none_iff] at hcontent
      rw [Option.elim_some, List.modify_eq_self hcontent]

theorem requestFile_of_lacks (hlacks : shelf.lacks file = true) :
    shelf.requestFile file = .ok (shelf.markLoading file, true) := by
  rw [lacks, Option.any_eq_true] at hlacks
  obtain ⟨content, hcontent, hphase⟩ := hlacks
  rw [requestFile, hcontent]
  dsimp only
  cases hcase : content.phase with
  | loading | loaded => simp [hcase] at hphase
  | notLoaded | failed =>
      dsimp only
      rw [modifyContent_of_content? hcontent]
      rfl

theorem requestFile_of_not_lacks (hlacks : shelf.lacks file = false) :
    (∃ error, shelf.requestFile file = .error error) ∨
      shelf.requestFile file = .ok (shelf, false) := by
  rw [requestFile]
  cases hcontent : shelf.content? file with
  | none => exact Or.inl ⟨_, rfl⟩
  | some content =>
      rw [lacks, hcontent, Option.any_some] at hlacks
      cases hcase : content.phase with
      | loading | loaded => exact Or.inr (by simp [hcase])
      | notLoaded | failed => simp [hcase] at hlacks

theorem content?_markLoading (shelf : SourceShelf) (file other : SourceFile) :
    (shelf.markLoading file).content? other =
      if file = other then (shelf.content? other).map fun content =>
        { content with phase := .loading }
      else shelf.content? other := by
  cases hcontent : shelf.content? file with
  | some content => exact content?_modifyContent (modifyContent_of_content? hcontent) other
  | none =>
      rw [markLoading_of_content?_eq_none hcontent]
      split_ifs with hsame
      · rw [← hsame, hcontent, Option.map_none]
      · rfl

/-- A file that is being fetched is not lacking. -/
theorem lacks_markLoading (shelf : SourceShelf) (file : SourceFile) :
    (shelf.markLoading file).lacks file = false := by
  rw [lacks, content?_markLoading, if_pos rfl]
  cases shelf.content? file <;> simp

end SourceShelf

/-! ## Origins -/

/-- The request for the record or the op of an origin. -/
def FocusOrigin.request : FocusOrigin → Request
  | .execution index => .executionData ⟨index, index + 1⟩
  | .graphOpCreation key => .graphOpInfo key

/-- Mark the record of an origin as being fetched. -/
def ExecutionTimeline.markOrigin (timeline : ExecutionTimeline) :
    FocusOrigin → ExecutionTimeline
  | .execution index =>
    { timeline with recordsInFlight := timeline.recordsInFlight.insert index }
  | .graphOpCreation _ => timeline

/-- Mark the op of an origin as being fetched. -/
def OpStore.markOrigin (store : OpStore) : FocusOrigin → OpStore
  | .execution _ => store
  | .graphOpCreation key => store.setPhase key .loading

/-! ## Frames -/

theorem StackTrace.firstOccurrences_filter (ids : List FrameId) (keep : FrameId → Bool) :
    firstOccurrences (ids.filter keep) = (firstOccurrences ids).filter keep := by
  induction ids with
  | nil => rfl
  | cons head rest ih =>
      by_cases hkept : keep head = true
      · rw [List.filter_cons_of_pos hkept, firstOccurrences, firstOccurrences,
          List.filter_cons_of_pos hkept, ih, List.filter_filter, List.filter_filter]
        simp only [Bool.and_comm]
      · -- an id that is left out was not kept anywhere
        have hgone : ((firstOccurrences rest).filter (· ≠ head)).filter keep =
            (firstOccurrences rest).filter keep := by
          rw [List.filter_filter]
          refine List.filter_congr fun id _ => ?_
          by_cases hsame : id = head <;> simp [hsame, hkept]
        rw [List.filter_cons_of_neg hkept, firstOccurrences, List.filter_cons_of_neg hkept, ih,
          hgone]

/-! ## Wants -/

/-- Something falls to one of two parts, and the other part is empty. -/
def Falls {α : Type} (empty whole first second : α) : Prop :=
  first = empty ∧ second = whole ∨ first = whole ∧ second = empty

/-- Marking both parts marks the whole. -/
theorem Falls.elim_elim {α β : Type} {whole first second : Option α}
    (hfalls : Falls none whole first second) (base : β) (mark : β → α → β) :
    second.elim (first.elim base (mark base)) (mark (first.elim base (mark base))) =
      whole.elim base (mark base) := by
  rcases hfalls with ⟨rfl, rfl⟩ | ⟨rfl, rfl⟩ <;> rfl

/-- What a scope asks for when it settles. -/
structure Wants where
  origin : Option FocusOrigin := none
  frames : List FrameId := []
  file : Option SourceFile := none

namespace Wants

variable {whole first second : Wants}

/-- The command that asks for what is wanted. -/
def command (wants : Wants) (run : RunId) : Command :=
  .combine
    [wants.origin.elim .none fun origin => .fetch run origin.request,
      if wants.frames = [] then .none else .fetch run (.stackFrames wants.frames),
      wants.file.elim .none fun file => .fetch run (.sourceFile file)]

theorem queue_command (wants : Wants) (run : RunId) :
    (wants.command run).queue =
      (wants.origin.toList.map fun origin => .data run origin.request) ++
        ((if wants.frames = [] then [] else [.data run (.stackFrames wants.frames)]) ++
          wants.file.toList.map fun file => .data run (.sourceFile file)) := by
  obtain ⟨origin, frames, file⟩ := wants
  rw [command, Command.queue_combine]
  cases origin <;> cases file <;> by_cases hframes : frames = [] <;>
    simp [hframes, Command.queue]

/-- Each of the three things that are wanted falls to one of two parts. -/
structure Splits (whole first second : Wants) : Prop where
  origin : Falls none whole.origin first.origin second.origin
  frames : Falls [] whole.frames first.frames second.frames
  file : Falls none whole.file first.file second.file

/-- Of each of the three things that are wanted, a part has all or nothing. -/
structure PartOf (part whole : Wants) : Prop where
  origin : part.origin = none ∨ part.origin = whole.origin
  frames : part.frames = [] ∨ part.frames = whole.frames
  file : part.file = none ∨ part.file = whole.file

theorem partOf_self (wants : Wants) : wants.PartOf wants := ⟨.inr rfl, .inr rfl, .inr rfl⟩

/-- Nothing is left for the second part when the first has everything. -/
theorem Splits.second_eq (hsplits : whole.Splits whole second) : second = {} := by
  obtain ⟨origin, frames, file⟩ := second
  obtain ⟨horigin, hframes, hfile⟩ := hsplits
  dsimp only at horigin hframes hfile
  have hall : ∀ {α : Type} {empty all rest : α}, Falls empty all all rest → rest = empty := by
    rintro α empty all rest (⟨rfl, rfl⟩ | ⟨_, rfl⟩) <;> rfl
  rw [hall horigin, hall hframes, hall hfile]

end Wants

namespace RunScope

variable {scope : RunScope} {part : Wants}

/-- Whether there can be something to fetch for an origin: an execution has to be one of
the sequence. -/
def reaches (scope : RunScope) : FocusOrigin → Bool
  | .execution index => index < scope.executions.digests.numItems
  | .graphOpCreation _ => true

/-- The origin, if its record or op has to be fetched. -/
def wantedOrigin (scope : RunScope) : Option FocusOrigin :=
  scope.focusOrigin.filter fun origin => scope.reaches origin && !scope.seeks origin

/-- The file of the focused line, if it has to be fetched. -/
def wantedFile (scope : RunScope) : Option SourceFile :=
  (scope.sources.focusLine.map (·.file)).filter scope.sources.lacks

/-- What settling asks for. -/
def wants (scope : RunScope) : Wants where
  origin := scope.wantedOrigin
  frames := scope.missingFrames
  file := scope.wantedFile

/-- Whether nothing of what is wanted is held or being fetched. -/
structure Lacks (scope : RunScope) (wants : Wants) : Prop where
  origin : ∀ origin, wants.origin = some origin → scope.seeks origin = false
  frames : ∀ id ∈ wants.frames, scope.seeksFrame id = false
  file : ∀ file, wants.file = some file → scope.sources.lacks file = true

theorem lacks_wants (scope : RunScope) : scope.Lacks scope.wants where
  origin := by
    intro origin hwanted
    have hwanted := (Option.filter_eq_some_iff.mp hwanted).2
    rw [Bool.and_eq_true, Bool.not_eq_true'] at hwanted
    exact hwanted.2
  frames := by
    intro id hmissing
    cases hids : scope.focusOrigin.bind scope.originFrameIds with
    | none => simp [wants, missingFrames, hids] at hmissing
    | some ids => exact ((mem_missingFrames hids).mp hmissing).2
  file := fun _ hwanted => (Option.filter_eq_some_iff.mp hwanted).2

theorem Lacks.not_mem_records {wants : Wants} (hlacks : scope.Lacks wants) {index : Nat}
    (hwanted : wants.origin = some (.execution index)) : index ∉ scope.executions.records := by
  have hunsought := hlacks.origin _ hwanted
  rw [seeks, decide_eq_false_iff_not, not_or] at hunsought
  exact hunsought.1

theorem Lacks.not_isSome_op? {wants : Wants} (hlacks : scope.Lacks wants) {key : GraphOpKey}
    (hwanted : wants.origin = some (.graphOpCreation key)) : ¬ (scope.ops.op? key).isSome := by
  have hunsought := hlacks.origin _ hwanted
  rw [seeks, decide_eq_false_iff_not, not_or] at hunsought
  exact hunsought.1

theorem Lacks.not_mem_frames {wants : Wants} (hlacks : scope.Lacks wants) {id : FrameId}
    (hwanted : id ∈ wants.frames) : id ∉ scope.frames := by
  have hunsought := hlacks.frames id hwanted
  rw [seeksFrame, decide_eq_false_iff_not, not_or] at hunsought
  exact hunsought.1

/-- Mark what is wanted as being fetched. -/
def grant (scope : RunScope) (wants : Wants) : RunScope :=
  { scope with
    executions := wants.origin.elim scope.executions scope.executions.markOrigin
    ops := wants.origin.elim scope.ops scope.ops.markOrigin
    framesInFlight := scope.framesInFlight.insertMany wants.frames
    sources := wants.file.elim scope.sources scope.sources.markLoading }

/-- The scope after a sticky line has followed the trace. -/
def followed (scope : RunScope) (sticky : Bool) : RunScope :=
  if sticky then scope.followLastFrame else scope

/-! ## Marks and what is wanted -/

theorem grant_grant {whole first second : Wants} (hsplits : whole.Splits first second)
    (scope : RunScope) : (scope.grant first).grant second = scope.grant whole := by
  have hframes : (scope.framesInFlight.insertMany first.frames).insertMany second.frames =
      scope.framesInFlight.insertMany whole.frames := by
    rcases hsplits.frames with ⟨hfirst, hsecond⟩ | ⟨hfirst, hsecond⟩ <;> simp [hfirst, hsecond]
  rw [grant, grant, grant]
  dsimp only
  rw [hsplits.origin.elim_elim, hsplits.origin.elim_elim, hsplits.file.elim_elim, hframes]

/-- Marks do not change which trace is current. -/
theorem originFrameIds_grant (scope : RunScope) (wants : Wants) :
    (scope.grant wants).originFrameIds = scope.originFrameIds := by
  funext origin
  obtain ⟨wanted, frames, file⟩ := wants
  cases wanted with
  | none => rfl
  | some wanted => cases wanted <;> cases origin <;> rfl

theorem focusOrigin_grant (scope : RunScope) (wants : Wants) :
    (scope.grant wants).focusOrigin = scope.focusOrigin := by
  obtain ⟨wanted, frames, file⟩ := wants
  cases wanted with
  | none => rfl
  | some wanted => cases wanted <;> rfl

theorem currentFrames_grant (scope : RunScope) (wants : Wants) :
    (scope.grant wants).currentFrames = scope.currentFrames := by
  have hframesOf : (scope.grant wants).framesOf = scope.framesOf := by
    funext origin
    rw [framesOf, originFrameIds_grant]
    rfl
  rw [currentFrames, focusOrigin_grant, hframesOf]
  rfl

theorem focusLine_grant (scope : RunScope) (wants : Wants) :
    (scope.grant wants).sources.focusLine = scope.sources.focusLine := by
  obtain ⟨wanted, frames, file⟩ := wants
  cases file <;> rfl

/-- Whatever is marked is sought. -/
theorem seeks_grant (scope : RunScope) (wants : Wants) (origin : FocusOrigin) :
    (scope.grant wants).seeks origin = (scope.seeks origin || wants.origin = some origin) := by
  obtain ⟨wanted, frames, file⟩ := wants
  -- a mark on another origin changes nothing for this one
  have hother : ∀ other : FocusOrigin, other ≠ origin →
      (scope.seeks origin || some other = some origin) = scope.seeks origin := by
    intro other hne
    simp [hne]
  cases wanted with
  | none => exact (Bool.or_false _).symm
  | some wanted =>
      cases wanted with
      | execution marked =>
          cases origin with
          | execution index =>
              rw [Bool.eq_iff_iff]
              simp [grant, seeks, ExecutionTimeline.markOrigin, or_comm, or_left_comm]
          | graphOpCreation key =>
              exact (hother (.execution marked) (by simp)).symm
      | graphOpCreation marked =>
          cases origin with
          | execution index =>
              exact (hother (.graphOpCreation marked) (by simp)).symm
          | graphOpCreation key =>
              have hop : (scope.ops.setPhase marked .loading).op? key = scope.ops.op? key := rfl
              rw [Bool.eq_iff_iff]
              simp only [grant, seeks, OpStore.markOrigin, Option.elim_some, hop,
                OpStore.phase_setPhase]
              by_cases hkey : marked = key <;> simp [hkey]

theorem reaches_grant (scope : RunScope) (wants : Wants) :
    (scope.grant wants).reaches = scope.reaches := by
  obtain ⟨wanted, frames, file⟩ := wants
  funext origin
  cases wanted with
  | none => rfl
  | some wanted => cases wanted <;> cases origin <;> rfl

theorem wantedOrigin_grant (scope : RunScope) (wants : Wants) :
    (scope.grant wants).wantedOrigin =
      scope.wantedOrigin.filter fun origin => wants.origin ≠ some origin := by
  rw [wantedOrigin, wantedOrigin, focusOrigin_grant, reaches_grant, Option.filter_filter]
  congr 1
  funext origin
  rw [seeks_grant]
  cases scope.reaches origin <;> cases scope.seeks origin <;> simp

theorem missingFrames_grant (scope : RunScope) (wants : Wants) :
    (scope.grant wants).missingFrames =
      scope.missingFrames.filter fun id => id ∉ wants.frames := by
  rw [missingFrames, missingFrames, focusOrigin_grant, originFrameIds_grant]
  cases scope.focusOrigin.bind scope.originFrameIds with
  | none => rfl
  | some ids =>
      rw [Option.map_some, Option.map_some, Option.getD_some, Option.getD_some,
        StackTrace.missingIds, StackTrace.missingIds, ← StackTrace.firstOccurrences_filter,
        List.filter_filter]
      congr 2
      funext id
      simp [grant, not_or, and_comm, and_left_comm]

theorem wantedFile_grant (scope : RunScope) (wants : Wants) :
    (scope.grant wants).wantedFile =
      scope.wantedFile.filter fun file => wants.file ≠ some file := by
  rw [wantedFile, wantedFile, focusLine_grant, Option.filter_filter]
  congr 1
  funext file
  obtain ⟨wanted, frames, granted⟩ := wants
  cases granted with
  | none => simp [grant]
  | some granted =>
      change (scope.sources.markLoading granted).lacks file = _
      by_cases hsame : granted = file
      · rw [hsame, SourceShelf.lacks_markLoading]
        simp
      · rw [SourceShelf.lacks, SourceShelf.content?_markLoading, if_neg hsame]
        simp [hsame, SourceShelf.lacks]

/-- The part of what is wanted that is marked is no longer wanted, and the rest still is. -/
theorem splits_wants_grant (hpart : part.PartOf scope.wants) :
    scope.wants.Splits part (scope.grant part).wants where
  origin := by
    change Falls none scope.wantedOrigin part.origin (scope.grant part).wantedOrigin
    rw [wantedOrigin_grant]
    -- a part grants all of a need or nothing of it
    rcases hpart.origin with hnone | hall
    · exact Or.inl ⟨hnone, by cases scope.wantedOrigin <;> simp [hnone]⟩
    · refine Or.inr ⟨hall, ?_⟩
      rw [hall]
      cases hwanted : scope.wantedOrigin <;> simp [wants, hwanted]
  frames := by
    change Falls [] scope.missingFrames part.frames (scope.grant part).missingFrames
    rw [missingFrames_grant]
    rcases hpart.frames with hnone | hall
    · exact Or.inl ⟨hnone, by simp [hnone]⟩
    · refine Or.inr ⟨hall, ?_⟩
      rw [hall, List.filter_eq_nil_iff]
      intro id hid
      simp only [wants, hid, not_true_eq_false, decide_false, Bool.false_eq_true, not_false_eq_true]
  file := by
    change Falls none scope.wantedFile part.file (scope.grant part).wantedFile
    rw [wantedFile_grant]
    rcases hpart.file with hnone | hall
    · exact Or.inl ⟨hnone, by cases scope.wantedFile <;> simp [hnone]⟩
    · refine Or.inr ⟨hall, ?_⟩
      rw [hall]
      cases hwanted : scope.wantedFile <;> simp [wants, hwanted]

/-! ## Following -/

/-- The focused line moves within its file, if it moves. -/
theorem followed_eq (scope : RunScope) (sticky : Bool) :
    ∃ focusLine,
      scope.followed sticky = { scope with sources := { scope.sources with focusLine } } ∧
      focusLine.map (·.file) = scope.sources.focusLine.map (·.file) := by
  rw [followed]
  split_ifs
  · rcases scope.followLastFrame_eq with hsame | ⟨line, target, hline, hfile, hmoved⟩
    · exact ⟨scope.sources.focusLine, hsame, rfl⟩
    · exact ⟨some target, hmoved, by rw [hline, Option.map_some, Option.map_some, hfile]⟩
  · exact ⟨scope.sources.focusLine, rfl, rfl⟩

/-- Following changes nothing of what is wanted. -/
theorem wants_followed (scope : RunScope) (sticky : Bool) :
    (scope.followed sticky).wants = scope.wants := by
  obtain ⟨focusLine, hfollowed, hfile⟩ := scope.followed_eq sticky
  have hwanted : (scope.followed sticky).wantedFile = scope.wantedFile := by
    rw [hfollowed, wantedFile, wantedFile]
    exact congrArg (Option.filter scope.sources.lacks) hfile
  rw [wants, wants, hwanted, hfollowed]
  rfl

/-- Where a sticky line moves, if it moves. -/
def target (scope : RunScope) : Option StackFrame :=
  scope.currentFrames.bind fun frames => scope.sources.focusLine.bind (StackTrace.follow frames)

theorem followLastFrame_eq_elim (scope : RunScope) :
    scope.followLastFrame = scope.target.elim scope scope.setFocusLine := by
  rw [followLastFrame, target]
  cases scope.currentFrames with
  | none => rfl
  | some frames => cases scope.sources.focusLine <;> rfl

theorem setFocusLine_grant (scope : RunScope) (wants : Wants) (line : StackFrame) :
    (scope.grant wants).setFocusLine line = (scope.setFocusLine line).grant wants := by
  obtain ⟨wanted, frames, file⟩ := wants
  cases file <;> rfl

theorem target_grant (scope : RunScope) (wants : Wants) :
    (scope.grant wants).target = scope.target := by
  rw [target, currentFrames_grant, focusLine_grant]
  rfl

/-- Marks do not keep a line from following. -/
theorem followed_grant (scope : RunScope) (wants : Wants) (sticky : Bool) :
    (scope.grant wants).followed sticky = (scope.followed sticky).grant wants := by
  rw [followed, followed]
  split_ifs
  · rw [followLastFrame_eq_elim, followLastFrame_eq_elim, target_grant]
    cases scope.target with
    | none => rfl
    | some line => exact scope.setFocusLine_grant wants line
  · rfl

theorem followed_of_placed {sticky : Bool} (hplaced : sticky = true → scope.target = none) :
    scope.followed sticky = scope := by
  cases sticky with
  | false => rfl
  | true =>
      change scope.followLastFrame = scope
      rw [followLastFrame_eq_elim, hplaced rfl, Option.elim_none]

/-- A line that has followed the trace is in its place. -/
theorem target_followed (scope : RunScope) : (scope.followed true).target = none := by
  change scope.followLastFrame.target = none
  rw [followLastFrame_eq_elim]
  cases hmoved : scope.target with
  | none => exact hmoved
  | some reached =>
      rw [target, Option.bind_eq_some_iff] at hmoved
      obtain ⟨frames, hframes, hmoved⟩ := hmoved
      obtain ⟨line, _, hfollow⟩ := Option.bind_eq_some_iff.mp hmoved
      rw [StackTrace.follow, Option.filter_eq_some_iff] at hfollow
      obtain ⟨hlast, _⟩ := hfollow
      -- the line is now the last of its file
      have hfile : reached.file = line.file :=
        StackFrame.isInFile_iff.mp (List.mem_filter.mp (List.mem_of_getLast? hlast)).2
      change scope.currentFrames.bind
        (fun frames => (some reached).bind (StackTrace.follow frames)) = none
      rw [hframes, Option.bind_some, Option.bind_some, StackTrace.follow, hfile, hlast]
      simp

theorem followed_followed (scope : RunScope) (sticky : Bool) :
    (scope.followed sticky).followed sticky = scope.followed sticky := by
  refine followed_of_placed ?_
  rintro rfl
  exact scope.target_followed

/-! ## Settling -/

theorem grant_nothing (scope : RunScope) : scope.grant {} = scope := by
  simp [grant]

theorem requestOrigin_eq_grant (scope : RunScope) (run : RunId) :
    scope.requestOrigin run =
      (scope.grant { origin := scope.wantedOrigin },
        scope.wantedOrigin.elim .none fun origin => .fetch run origin.request) := by
  rw [requestOrigin]
  cases horigin : scope.focusOrigin with
  | none =>
      rw [wantedOrigin, horigin, Option.filter_none, grant_nothing]
      rfl
  | some origin =>
      -- the request looks at reach and marks in one test, the wants in two
      have hwanted : scope.wantedOrigin =
          if scope.reaches origin && !scope.seeks origin then some origin else none := by
        rw [wantedOrigin, horigin, Option.filter_some]
      cases origin with
      | execution index =>
          dsimp only
          rw [ExecutionTimeline.requestRecord]
          split_ifs with hheld
          · have hnone : scope.wantedOrigin = none := by
              rw [hwanted, if_neg]
              simp only [reaches, seeks, Bool.and_eq_true, decide_eq_true_eq, Bool.not_eq_true',
                decide_eq_false_iff_not, ← Nat.not_le]
              exact fun hwanted => hheld.elim hwanted.1 hwanted.2
            rw [hnone, grant_nothing]
            rfl
          · have hsome : scope.wantedOrigin = some (.execution index) := by
              rw [hwanted, if_pos]
              simp only [reaches, seeks, Bool.and_eq_true, decide_eq_true_eq, Bool.not_eq_true',
                decide_eq_false_iff_not, ← Nat.not_le]
              exact not_or.mp hheld
            rw [hsome]
            simp [grant, ExecutionTimeline.markOrigin, OpStore.markOrigin, FocusOrigin.request]
      | graphOpCreation key =>
          dsimp only
          rw [requestOp, OpStore.request]
          split_ifs with hheld
          · have hnone : scope.wantedOrigin = none := by
              rw [hwanted, if_neg]
              simp [reaches, seeks, hheld]
            rw [hnone, grant_nothing]
            rfl
          · have hsome : scope.wantedOrigin = some (.graphOpCreation key) := by
              rw [hwanted, if_pos]
              simp [reaches, seeks, hheld]
            rw [hsome]
            simp [grant, ExecutionTimeline.markOrigin, OpStore.markOrigin, FocusOrigin.request]

theorem requestMissingFrames_eq_grant (scope : RunScope) (run : RunId) :
    scope.requestMissingFrames run =
      (scope.grant { frames := scope.missingFrames },
        if scope.missingFrames = [] then .none
        else .fetch run (.stackFrames scope.missingFrames)) := by
  rw [requestMissingFrames]
  cases scope.missingFrames with
  | nil =>
      rw [grant_nothing]
      rfl
  | cons first rest => rfl

theorem requestFocusedFile_eq_grant (scope : RunScope) (run : RunId) :
    scope.requestFocusedFile run =
      (scope.grant { file := scope.wantedFile },
        scope.wantedFile.elim .none fun file => .fetch run (.sourceFile file)) := by
  rw [requestFocusedFile]
  cases hline : scope.sources.focusLine with
  | none =>
      rw [wantedFile, hline, Option.map_none, Option.filter_none, grant_nothing]
      rfl
  | some line =>
      rw [wantedFile, hline, Option.map_some, Option.filter_some]
      dsimp only
      rw [requestFile]
      split_ifs with hlacks
      · rw [SourceShelf.requestFile_of_lacks hlacks]
        simp [grant]
      · rw [Option.elim_none, grant_nothing]
        rcases SourceShelf.requestFile_of_not_lacks (Bool.eq_false_iff.mpr hlacks) with
          ⟨error, hrefused⟩ | hheld
        · rw [hrefused]
        · rw [hheld]
          rfl

/-- Settling lets a sticky line follow the trace, and asks for what is wanted. -/
theorem settle_eq_grant (scope : RunScope) (run : RunId) (sticky : Bool) :
    scope.settle run sticky =
      ((scope.followed sticky).grant scope.wants, scope.wants.command run) := by
  -- what the later steps want is what they wanted before the earlier ones
  have hframes : (scope.grant { origin := scope.wantedOrigin }).missingFrames =
      scope.missingFrames := by
    rw [missingFrames_grant]
    simp
  have hfile : (((scope.grant { origin := scope.wantedOrigin }).grant
      { frames := scope.missingFrames }).followed sticky).wantedFile = scope.wantedFile := by
    change (((scope.grant _).grant _).followed sticky).wants.file = _
    rw [wants_followed]
    change ((scope.grant _).grant _).wantedFile = _
    rw [wantedFile_grant, wantedFile_grant]
    cases scope.wantedFile <;> simp
  have hfirst : Wants.Splits { origin := scope.wantedOrigin, frames := scope.missingFrames }
      { origin := scope.wantedOrigin } { frames := scope.missingFrames } :=
    ⟨.inr ⟨rfl, rfl⟩, .inl ⟨rfl, rfl⟩, .inl ⟨rfl, rfl⟩⟩
  have hsecond : scope.wants.Splits
      { origin := scope.wantedOrigin, frames := scope.missingFrames }
      { file := scope.wantedFile } :=
    ⟨.inr ⟨rfl, rfl⟩, .inr ⟨rfl, rfl⟩, .inl ⟨rfl, rfl⟩⟩
  -- three requests one after the other, with the line moved on before the last
  have hsettled : scope.settle run sticky =
      let framed := (scope.grant { origin := scope.wantedOrigin }).grant
        { frames := scope.missingFrames }
      ((framed.followed sticky).grant { file := scope.wantedFile }, scope.wants.command run) := by
    rw [settle, requestOrigin_eq_grant]
    dsimp only
    rw [requestMissingFrames_eq_grant, hframes]
    dsimp only
    rw [← followed, requestFocusedFile_eq_grant, hfile]
    rfl
  rw [hsettled]
  dsimp only
  rw [grant_grant hfirst, followed_grant, grant_grant hsecond]

/-- Whether settling has nothing left to do: nothing is wanted, and a sticky line is in its
place. -/
structure Settled (scope : RunScope) (sticky : Bool) : Prop where
  wants_eq : scope.wants = {}
  placed : sticky = true → scope.target = none

theorem settle_of_settled {sticky : Bool} (hsettled : scope.Settled sticky) (run : RunId) :
    scope.settle run sticky = (scope, .none) := by
  rw [settle_eq_grant, hsettled.wants_eq, followed_of_placed hsettled.placed, grant_nothing]
  rfl

theorem settled_settle (scope : RunScope) (run : RunId) (sticky : Bool) :
    (scope.settle run sticky).1.Settled sticky := by
  rw [settle_eq_grant]
  have hsplits := splits_wants_grant (Wants.partOf_self (scope.followed sticky).wants)
  rw [wants_followed] at hsplits
  refine ⟨hsplits.second_eq, ?_⟩
  rintro rfl
  rw [target_grant]
  exact scope.target_followed

end RunScope

/-! ## Replies -/

namespace Session

variable {session : Session} {run : RunId}

/-- What a session does with what its scope made of a reply: when the reply was accepted, the
scope settles. -/
def conclude (session : Session) (run : RunId) (now : Nat) :
    RunScope × Except ViewError (Command × Bool) → Session × Except ViewError Command
  | (scope, .error error) => ({ session with scope }, .error error)
  | (scope, .ok (command, grew)) =>
    ({ session with
        scope := (scope.settle run session.stickyFocus).1
        lastNonEmptyPoll := if grew then now else session.lastNonEmptyPoll },
      .ok (.combine [command, (scope.settle run session.stickyFocus).2]))

theorem apply_loaded (hactive : session.activeRun = some run) (reply : Reply) (now : Nat) :
    session.apply (.loaded run reply) now =
      session.conclude run now (session.scope.onReply run now reply) := by
  have hreduced : session.reduce now (.loaded run reply) = session.onLoaded run reply now := rfl
  rw [onLoaded, if_pos hactive] at hreduced
  rcases hreply : session.scope.onReply run now reply with ⟨scope, error | ⟨command, grew⟩⟩ <;>
    rw [hreply] at hreduced
  · exact apply_of_error hreduced
  · have hstays : ({ session with
        scope
        lastNonEmptyPoll := if grew then now else session.lastNonEmptyPoll } : Session).activeRun =
          some run := hactive
    rw [apply_of_ok hreduced rfl, settle_of_some hstays]
    rfl

/-- A reply for a run that is not active is dropped, whatever it says. -/
theorem apply_loaded_inactive (hinactive : session.activeRun ≠ some run) (reply : Reply)
    (now : Nat) :
    session.apply (.loaded run reply) now =
      (session.settle.1, .ok (.combine [.none, session.settle.2])) := by
  refine apply_of_ok ?_ rfl
  rw [reduce, onLoaded, if_neg hinactive]

theorem activeRun_conclude (session : Session) (run : RunId) (now : Nat)
    (taken : RunScope × Except ViewError (Command × Bool)) :
    (session.conclude run now taken).1.activeRun = session.activeRun := by
  rcases taken with ⟨scope, error | ⟨command, grew⟩⟩ <;> rfl

end Session

end TraceViewer
