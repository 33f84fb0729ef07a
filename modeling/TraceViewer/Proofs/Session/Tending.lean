import TraceViewer.Proofs.Session.Responses
import TraceViewer.Sample

/-!
# Nothing is missing that is not being fetched

After an event that is accepted, and that does not report a failed fetch, everything that the
focus needs is held or being fetched, whatever came before (`tended_after`).  It needs the record
or the op of the origin, the frames of its trace, and the file of the focused line.  What the
session has come to wait for because of the event is asked for in the answer, and settling once
more would do nothing.

* Settling leaves nothing wanted, and what is not wanted is held or being fetched
  (`supplied_of_settled`).
* A response marks only what it asks for (`tends_responds`), and so does settling
  (`tends_settle`).  For all marks but those of the files this is what `leaves_operate`,
  `answered_onReply` and `failed_onFetchFailed` say of sound scopes.  A source may list a file
  twice, and then the scope is not sound, so they are applied to the scope without its files.

A failed fetch asks for nothing.  Without marks and load states the session is the same before
and after it (`apply_fetchFailed`).
-/

namespace TraceViewer

/-! ## Without marks -/

/-- The timeline without its marks and load states. -/
def Timeline.unmarked {α : Type} (timeline : Timeline α) : Timeline α where
  kind := timeline.kind
  totalLoad := {}
  pagesLoad := {}
  view :=
    { timeline.view with sequence := { timeline.view.sequence with inFlight := ∅ } }

namespace SourceShelf

/-- The shelf without its load states. -/
def unmarked (shelf : SourceShelf) : SourceShelf :=
  { shelf with
    listLoad := {}
    contents := shelf.contents.map fun content => { content with phase := .notLoaded } }

theorem unmarked_onFileFailed (shelf : SourceShelf) (file : SourceFile) :
    (shelf.onFileFailed file).unmarked = shelf.unmarked := by
  rw [onFileFailed]
  split
  · rfl
  · next hmodify =>
      obtain ⟨place, _, _, rfl⟩ := modifyContent_eq_ok_iff.mp hmodify
      rw [unmarked, unmarked]
      congr 1
      refine List.ext_getElem? fun index => ?_
      rw [List.getElem?_map, List.getElem?_map, List.getElem?_modify]
      cases shelf.contents[index]? with
      | none => rfl
      | some content => by_cases hsame : place = index <;> simp [hsame]

end SourceShelf

namespace RunScope

variable {scope before after : RunScope} {run : RunId} {queue : List PendingFetch}
  {limit : SequenceKind → Nat}

/-! ## Marks and requests -/

/-- Whether both sequences are sound, for a source that has some number of items of each, and
every listed file has its content. -/
structure Regular (scope : RunScope) : Prop where
  sequences : ∃ limit, (scope.withShelf {}).Sound limit
  aligned : scope.sources.Aligned

theorem regular_fresh (config : Config) (valid : config.Valid) : (fresh config valid).Regular :=
  ⟨⟨fun _ => 0, sound_fresh config valid _⟩, rfl⟩

theorem marked_withShelf {shelf : SourceShelf} {mark : Mark} (hother : ∀ file, mark ≠ .file file) :
    (scope.withShelf shelf).Marked mark ↔ scope.Marked mark := by
  cases mark with
  | sequence kind mark => cases kind <;> exact Iff.rfl
  | file file => exact absurd rfl (hother file)
  | _ => exact Iff.rfl

/-- A change that leaves a regular scope, which waits only for what it waited for before and
for what is asked for. -/
structure Tends (run : RunId) (queue : List PendingFetch) (before after : RunScope) : Prop where
  regular : after.Regular
  tracked : Tracked queue run before.Marked after.Marked

/-- A change can be followed on scopes without files, when it is known what becomes of the
files. -/
theorem tends_of_leaves (haligned : before.sources.Aligned) {kept : Mark → Prop}
    (hleaves : Leaves limit run kept queue (after.withShelf {}))
    (hkept : ∀ mark, kept mark → (before.withShelf {}).Marked mark)
    {focusLine : Option StackFrame}
    (hmoves : { before.sources with focusLine }.Moves run queue after.sources) :
    Tends run queue before after := by
  refine ⟨⟨⟨limit, hleaves.sound⟩, hmoves.aligned haligned⟩, fun mark hmark => ?_⟩
  by_cases hfile : ∃ file, mark = .file file
  · obtain ⟨file, rfl⟩ := hfile
    exact hmoves.loading file hmark
  · have hother : ∀ file, mark ≠ .file file := fun file heq => hfile ⟨file, heq⟩
    refine (hleaves.tracked mark ((marked_withShelf hother).mpr hmark)).imp_left fun hold => ?_
    exact (marked_withShelf hother).mp (hkept mark hold)

/-- A change of nothing but the files. -/
theorem tends_of_withShelf (hregular : before.Regular)
    (hsame : after.withShelf {} = before.withShelf {}) {focusLine : Option StackFrame}
    (hmoves : { before.sources with focusLine }.Moves run queue after.sources) :
    Tends run queue before after := by
  obtain ⟨⟨limit, hsound⟩, haligned⟩ := hregular
  have hleaves : Leaves limit run (before.withShelf {}).Marked queue (after.withShelf {}) := by
    rw [hsame]
    exact ⟨hsound, fun _ => Or.inl⟩
  exact tends_of_leaves haligned hleaves (fun _ => id) hmoves

theorem tends_operate (hregular : scope.Regular) (operation : Operation) :
    Tends run (Command.queueOf (scope.operate run operation).2) scope
      (scope.operate run operation).1 := by
  have hmoves := scope.moves_operate run operation
  by_cases hfile : ∃ file, operation = .requestFile file
  · obtain ⟨file, rfl⟩ := hfile
    obtain ⟨contents, hrequested⟩ := scope.requestFile_eq run file
    refine tends_of_withShelf hregular ?_ hmoves
    rw [operate, hrequested]
    rfl
  · obtain ⟨⟨limit, hsound⟩, haligned⟩ := hregular
    have hleaves : Leaves limit run _ _ _ := leaves_operate hsound operation
    rw [operate_withShelf scope {} run fun file heq => hfile ⟨file, heq⟩] at hleaves
    exact tends_of_leaves haligned hleaves (fun _ => id) hmoves

/-- Every reply that does not list files is one of a source that has enough items. -/
theorem sound_reply (limit : SequenceKind → Nat) {reply : Reply}
    (hlist : ∀ files, reply ≠ .sourceFileList files) :
    ∃ more, (∀ kind, limit kind ≤ more kind) ∧ reply.Sound more := by
  cases reply with
  | numExecutions total | numGraphExecutions total =>
      exact ⟨fun kind => limit kind + total, fun _ => Nat.le_add_right .., Nat.le_add_left ..⟩
  | executionDigests batch | graphExecutions batch =>
      exact ⟨fun kind => limit kind + batch.total, fun _ => Nat.le_add_right ..,
        Nat.le_add_left ..⟩
  | sourceFileList files => exact absurd rfl (hlist files)
  | _ => exact ⟨limit, fun _ => Nat.le_refl _, trivial⟩

theorem tends_onReply (hregular : scope.Regular) (now : Nat) (reply : Reply) :
    Tends run (Command.queueOf ((scope.onReply run now reply).2.map Prod.fst)) scope
      (scope.onReply run now reply).1 := by
  have hmoves := scope.moves_onReply run now reply
  by_cases hlist : ∃ files, reply = .sourceFileList files
  · -- without files, any list is as good as an empty one
    obtain ⟨files, rfl⟩ := hlist
    obtain ⟨⟨limit, hsound⟩, haligned⟩ := hregular
    have hleaves : Leaves limit run _ _ _ :=
      answered_sourceFileList hsound now List.nodup_nil
    exact tends_of_leaves haligned hleaves (fun _ hkept => hkept.1) hmoves
  · have hlist : ∀ files, reply ≠ .sourceFileList files := fun files heq => hlist ⟨files, heq⟩
    by_cases hfile : ∃ file lines, reply = .sourceFile file lines
    · obtain ⟨file, lines, rfl⟩ := hfile
      -- a content changes nothing outside the shelf
      refine tends_of_withShelf hregular ?_ hmoves
      rw [onReply]
      rcases hloaded : scope.sources.onFileLoaded file lines with error | sources
      · rfl
      · dsimp only
        rw [withShelf, withShelf, (SourceShelf.files_modifyContent hloaded).2]
    · obtain ⟨⟨limit, hsound⟩, haligned⟩ := hregular
      -- any other reply is sound once the limit is large enough
      obtain ⟨more, hle, hreply⟩ := sound_reply limit hlist
      have hleaves : Leaves more run _ _ _ := answered_onReply (hsound.mono hle) hreply now
      rw [onReply_withShelf scope {} run now hlist
        fun file lines heq => hfile ⟨file, lines, heq⟩] at hleaves
      exact tends_of_leaves haligned hleaves (fun _ hkept => hkept.1) hmoves

theorem tends_onFetchFailed (hregular : scope.Regular) (request : Request) :
    Tends run [] scope (scope.onFetchFailed request) := by
  have hmoves := scope.moves_onFetchFailed run request
  by_cases hfile : ∃ file, request = .sourceFile file
  · obtain ⟨file, rfl⟩ := hfile
    refine tends_of_withShelf hregular ?_ hmoves
    rw [onFetchFailed, SourceShelf.onFileFailed]
    split
    · rfl
    · next hmodify =>
        rw [withShelf, withShelf, (SourceShelf.files_modifyContent hmodify).2]
  · obtain ⟨⟨limit, hsound⟩, haligned⟩ := hregular
    have hleaves : Leaves limit run _ _ _ := failed_onFetchFailed hsound request
    rw [onFetchFailed_withShelf scope {} fun file heq => hfile ⟨file, heq⟩] at hleaves
    exact tends_of_leaves haligned hleaves (fun _ hkept => hkept.1) hmoves

theorem tends_responds {event : Event} (hregular : before.Regular)
    (hresponds : Responds (some run) event before after queue) : Tends run queue before after := by
  cases hresponds with
  | rest => exact tends_of_withShelf hregular rfl (before.sources.moves_withListLoad _)
  | operate _ _ _ operation => exact tends_operate hregular operation
  | click _ frame =>
      exact tends_of_withShelf hregular rfl
        (SourceShelf.moves_withListLoad { before.sources with focusLine := some frame } _)
  | reply _ now reply => exact tends_onReply hregular now reply
  | fail _ request => exact tends_onFetchFailed hregular request

/-- Without files, settling asks for everything but a file. -/
theorem settle_withShelf (scope : RunScope) (run : RunId) (sticky : Bool) :
    (scope.withShelf {}).settle run sticky =
      ((scope.settle run sticky).1.withShelf {},
        ({ scope.wants with file := none }).command run) := by
  have hstays : (scope.withShelf {}).target = none := by
    rw [target]
    cases (scope.withShelf {}).currentFrames <;> rfl
  obtain ⟨focusLine, hfollowed, _⟩ := scope.followed_eq sticky
  rw [settle_eq_grant, settle_eq_grant, hfollowed, followed_of_placed fun _ => hstays]
  refine Prod.ext ?_ rfl
  dsimp only
  rw [grant, grant]
  cases scope.wants.file <;> rfl

theorem tends_settle (hregular : scope.Regular) (sticky : Bool) :
    Tends run (scope.settle run sticky).2.queue scope (scope.settle run sticky).1 := by
  obtain ⟨⟨limit, hsound⟩, haligned⟩ := hregular
  obtain ⟨focusLine, hfollowed, _⟩ := scope.followed_eq sticky
  have hmoves := scope.moves_settle run sticky
  rw [hfollowed] at hmoves
  have hleaves : Leaves limit run _ _ _ := leaves_settle hsound sticky
  rw [settle_withShelf] at hleaves
  -- with the file out of the way, no more is asked for than before
  have hsub : (({ scope.wants with file := none } : Wants).command run).queue ⊆
      (scope.settle run sticky).2.queue := by
    rw [settle_eq_grant, Wants.queue_command, Wants.queue_command]
    simp
  have hwider : Leaves limit run (scope.withShelf {}).Marked (scope.settle run sticky).2.queue
      ((scope.settle run sticky).1.withShelf {}) :=
    ⟨hleaves.sound, fun mark hmark => (hleaves.tracked mark hmark).imp_right (·.mono hsub)⟩
  exact tends_of_leaves haligned hwider (fun _ => id) hmoves

theorem Regular.responds {active : Option RunId} {event : Event} (hregular : before.Regular)
    (hresponds : Responds active event before after queue) : after.Regular := by
  cases active with
  | some run => exact (tends_responds hregular hresponds).regular
  | none =>
      cases hresponds with
      | rest => exact hregular
      | click => exact ⟨hregular.sequences, hregular.aligned⟩

/-! ## What the focus needs -/

/-- Whether everything that the focus needs is held or being fetched. -/
structure Supplied (scope : RunScope) : Prop where
  record : ∀ index, scope.focusOrigin = some (.execution index) →
    index < scope.executions.digests.numItems →
      index ∈ scope.executions.records ∨ index ∈ scope.executions.recordsInFlight
  op : ∀ key, scope.focusOrigin = some (.graphOpCreation key) →
    (scope.ops.op? key).isSome ∨ scope.ops.phase key = .loading
  frames : ∀ origin ids, scope.focusOrigin = some origin →
    scope.originFrameIds origin = some ids →
      ∀ id ∈ ids, id ∈ scope.frames ∨ id ∈ scope.framesInFlight
  /-- So the trace of a record that is held has all its frames, or they are being fetched. -/
  record_frames : ∀ (index : Nat) (execution : Execution),
    scope.focusOrigin = some (.execution index) →
      scope.executions.records[index]? = some execution →
        ∀ id ∈ execution.frameIds, id ∈ scope.frames ∨ id ∈ scope.framesInFlight
  op_frames : ∀ key op, scope.focusOrigin = some (.graphOpCreation key) →
    scope.ops.op? key = some op →
      ∀ id ∈ op.frameIds, id ∈ scope.frames ∨ id ∈ scope.framesInFlight
  file : ∀ line, scope.sources.focusLine = some line → line.file ∈ scope.sources.files →
    ∃ content, scope.sources.content? line.file = some content ∧
      (content.phase = .loading ∨ content.phase = .loaded)

/-- What is not wanted of the focus is held or being fetched. -/
theorem supplied_of_settled {sticky : Bool} (haligned : scope.sources.Aligned)
    (hsettled : scope.Settled sticky) : scope.Supplied := by
  have hwants := hsettled.wants_eq
  have horigin : scope.wantedOrigin = none := congrArg Wants.origin hwants
  have hframes : scope.missingFrames = [] := congrArg Wants.frames hwants
  have hfile : scope.wantedFile = none := congrArg Wants.file hwants
  -- nothing is wanted, so what is in reach is held or on its way
  have hsought : ∀ origin, scope.focusOrigin = some origin → scope.reaches origin = true →
      scope.seeks origin = true := by
    intro origin hfocus hreaches
    rw [wantedOrigin, hfocus, Option.filter_some, hreaches] at horigin
    simpa using horigin
  have htrace : ∀ origin ids, scope.focusOrigin = some origin →
      scope.originFrameIds origin = some ids →
        ∀ id ∈ ids, id ∈ scope.frames ∨ id ∈ scope.framesInFlight := by
    intro origin ids hfocus hids id hid
    have hbind : scope.focusOrigin.bind scope.originFrameIds = some ids := by
      rw [hfocus, Option.bind_some, hids]
    have hseeks : scope.seeksFrame id = true := by
      by_contra hmissing
      have hmem := (mem_missingFrames hbind).mpr ⟨hid, Bool.eq_false_iff.mpr hmissing⟩
      rw [hframes] at hmem
      cases hmem
    exact of_decide_eq_true hseeks
  constructor
  case record =>
    intro index hfocus hlt
    exact of_decide_eq_true (hsought _ hfocus (decide_eq_true hlt))
  case op => exact fun key hfocus => of_decide_eq_true (hsought _ hfocus rfl)
  case frames => exact htrace
  case record_frames =>
    intro index execution hfocus hheld
    exact htrace _ _ hfocus (by rw [originFrameIds, hheld, Option.map_some])
  case op_frames =>
    intro key op hfocus hheld
    exact htrace _ _ hfocus (by rw [originFrameIds, hheld, Option.map_some])
  case file =>
    intro line hline hlisted
    obtain ⟨content, hcontent⟩ := haligned.exists_content? hlisted
    refine ⟨content, hcontent, ?_⟩
    rw [wantedFile, hline, Option.map_some, Option.filter_some] at hfile
    rw [SourceShelf.lacks, hcontent, Option.any_some] at hfile
    cases hphase : content.phase <;> simp [hphase] at hfile ⊢

/-! ## Failures -/

/-- The scope without its marks and load states. -/
def unmarked (scope : RunScope) : RunScope :=
  { alerts := { scope.alerts with load := {}, inFlight := ∅ }
    executions :=
      { digests := scope.executions.digests.unmarked
        records := scope.executions.records
        recordsInFlight := ∅ }
    graphExecutions := scope.graphExecutions.unmarked
    ops := { scope.ops with phases := ∅ }
    frames := scope.frames
    framesInFlight := ∅
    location := scope.location
    sources := scope.sources.unmarked }

/-- A failed fetch changes nothing but marks and load states. -/
theorem unmarked_onFetchFailed (scope : RunScope) (request : Request) :
    (scope.onFetchFailed request).unmarked = scope.unmarked := by
  cases request with
  | page kind range => cases kind <;> rfl
  | graphOpInfo key =>
      obtain ⟨phases, hfailed⟩ := scope.ops.updatePhase_eq key .failed
      rw [onFetchFailed, OpStore.onFailed, hfailed]
      rfl
  | sourceFile file =>
      rw [onFetchFailed, unmarked, scope.sources.unmarked_onFileFailed file]
      rfl
  | _ => rfl

end RunScope

namespace Session

variable {session after : Session} {event : Event} {now : Nat} {run : RunId} {command : Command}

/-! ## Sessions -/

theorem regular_scopeFor (hregular : session.scope.Regular) (event : Event) :
    (session.scopeFor event).Regular := by
  rw [scopeFor]
  split_ifs
  · exact RunScope.regular_fresh session.config session.config_valid
  · exact hregular

theorem regular_settle (hregular : session.scope.Regular) : session.settle.1.scope.Regular := by
  rcases Option.eq_none_or_eq_some session.activeRun with hactive | ⟨run, hactive⟩
  · rw [settle_of_none hactive]
    exact hregular
  · rw [settle_of_some hactive]
    have htends : RunScope.Tends run _ session.scope _ :=
      RunScope.tends_settle hregular session.stickyFocus
    exact htends.regular

theorem regular_apply (hregular : session.scope.Regular) (event : Event) (now : Nat) :
    (session.apply event now).1.scope.Regular := by
  have hreduced := (regular_scopeFor hregular event).responds (session.responds_reduce event now)
  exact apply_induct (motive := fun after _ => after.scope.Regular) hreduced
    (regular_settle hreduced)

/-- Whatever happens to a session, its scope is regular. -/
theorem regular_applyAll (config : Config) (valid : config.Valid)
    (history : List (Event × Nat)) :
    ((fresh config valid).applyAll history).scope.Regular :=
  applyAll_preserves (motive := fun session => session.scope.Regular)
    (fun _ event now hregular => regular_apply hregular event now)
    (RunScope.regular_fresh config valid) history

theorem runsLoad_inRun (session : Session)
    (change : RunScope → RunId → RunScope × Except ViewError Command) :
    (session.inRun change).1.runsLoad = session.runsLoad := by
  rcases Option.eq_none_or_eq_some session.activeRun with hactive | ⟨run, hactive⟩
  · rw [inRun_of_none hactive]
  · rw [inRun_of_some hactive]

/-- The listing is loading only if it was before, or is asked for. -/
theorem runsLoad_reduce (session : Session) (event : Event) (now : Nat)
    (hloading : (session.reduce now event).1.runsLoad.isLoading = true) :
    session.runsLoad.isLoading = true ∨ .runs ∈ Command.queueOf (session.reduce now event).2 := by
  by_cases huser : event.isUser = true
  · rcases session.reduce_user now huser with ⟨run, _, hchange⟩ | hstep
    · -- a run can be selected while the listing is being fetched
      rw [hchange, changeRun, refresh, adjustRun, runsLoad_inRun] at hloading
      exact Or.inl hloading
    · generalize session.reduce now event = result at hstep hloading ⊢
      cases hstep with
      | listing => exact Or.inr (List.mem_singleton_self _)
      | operate pollOnset operation =>
          rw [runsLoad_inRun] at hloading
          exact Or.inl hloading
      | click | stick => exact Or.inl hloading
  · cases event with
    | runsLoaded runs =>
        rw [reduce] at hloading
        split_ifs at hloading
        · cases hloading
        · rw [changeRun, refresh, adjustRun, runsLoad_inRun] at hloading
          cases hloading
    | runsFailed => cases hloading
    | loaded run reply =>
        rw [reduce, onLoaded] at hloading
        split_ifs at hloading
        · rcases hreply : session.scope.onReply run now reply with
            ⟨scope, error | ⟨command, grew⟩⟩ <;> rw [hreply] at hloading <;>
            exact Or.inl hloading
        · exact Or.inl hloading
    | fetchFailed run request =>
        rw [reduce, onFetchFailed] at hloading
        split_ifs at hloading <;> exact Or.inl hloading
    | _ => exact absurd rfl huser

/-- The session without the marks and the load states of its scope. -/
def unmarked (session : Session) : Session := { session with scope := session.scope.unmarked }

/-- What an accepted event leaves while a run is active. -/
structure Tended (session : Session) (event : Event) (run : RunId) (command : Command)
    (after : Session) : Prop where
  /-- Nothing that the focus needs is missing without being fetched. -/
  supplied : after.scope.Supplied
  /-- What the scope has come to wait for is asked for. -/
  tracked : Tracked command.queue run (session.scopeFor event).Marked after.scope.Marked
  listing : after.runsLoad.isLoading = true →
    session.runsLoad.isLoading = true ∨ .runs ∈ command.queue
  /-- Settling again would do nothing. -/
  settle_eq : after.settle = (after, .none)

/-- A session settles no further once its scope has. -/
theorem settle_of_settled (hactive : session.activeRun = some run)
    (hsettled : session.scope.Settled session.stickyFocus) : session.settle = (session, .none) := by
  rw [settle_of_some hactive, RunScope.settle_of_settled hsettled]

theorem tended_of_accepted (hregular : session.scope.Regular)
    (hanswer : event.isFetchFailure = false)
    (haccepted : session.apply event now = (after, .ok command))
    (hactive : after.activeRun = some run) : session.Tended event run command after := by
  rcases hreduced : session.reduce now event with ⟨reduced, error | first⟩
  · rw [apply_of_error hreduced] at haccepted
    cases haccepted
  · rw [apply_of_ok hreduced hanswer] at haccepted
    cases haccepted
    have hresponds := session.responds_reduce event now
    have hlisting := session.runsLoad_reduce event now
    rw [activeRun_settle] at hactive
    rw [hreduced] at hresponds hlisting
    dsimp only at hresponds hlisting
    rw [hactive] at hresponds
    -- the event tends the scope it leaves, and settling tends that one
    have hfirst := RunScope.tends_responds (regular_scopeFor hregular event) hresponds
    have hsecond : RunScope.Tends run _ reduced.scope _ :=
      RunScope.tends_settle hfirst.regular reduced.stickyFocus
    have hsettled := reduced.scope.settled_settle run reduced.stickyFocus
    have hqueue :
        (Command.combine [first, (reduced.scope.settle run reduced.stickyFocus).2]).queue =
          first.queue ++ (reduced.scope.settle run reduced.stickyFocus).2.queue :=
      Command.queueOf_combine_pair ..
    rw [settle_of_some hactive]
    constructor
    case supplied => exact RunScope.supplied_of_settled hsecond.regular.aligned hsettled
    case tracked =>
      rw [hqueue]
      exact hfirst.tracked.trans hsecond.tracked
    case listing =>
      intro hloading
      rw [hqueue]
      exact (hlisting hloading).imp_right (List.mem_append_left _)
    case settle_eq => exact settle_of_settled hactive hsettled

/-- A failed fetch asks for nothing and changes nothing but marks and load states. -/
theorem apply_fetchFailed (session : Session) (run : RunId) (request : Request) (now : Nat) :
    ∃ after, session.apply (.fetchFailed run request) now = (after, .ok .none) ∧
      after.unmarked = session.unmarked := by
  refine ⟨session.onFetchFailed run request, apply_of_failure rfl, ?_⟩
  rw [onFetchFailed]
  split_ifs
  · rw [unmarked, unmarked, RunScope.unmarked_onFetchFailed]
  · rfl

/-- Whatever came before, an accepted event leaves nothing missing that is not being fetched, and
a failed fetch has no consequences but for marks and load states. -/
theorem tended_after (config : Config) (valid : config.Valid) (history : List (Event × Nat))
    (event : Event) (now : Nat) :
    let session := (fresh config valid).applyAll history
    (∀ run command after, event.isFetchFailure = false →
      session.apply event now = (after, .ok command) → after.activeRun = some run →
        session.Tended event run command after) ∧
      ∀ run request, ∃ after, session.apply (.fetchFailed run request) now = (after, .ok .none) ∧
        after.unmarked = session.unmarked := by
  intro session
  refine ⟨?_, fun run request => session.apply_fetchFailed run request now⟩
  intro run command after hanswer haccepted hactive
  exact tended_of_accepted (regular_applyAll config valid history) hanswer haccepted hactive

/-- When the record of the focused execution arrives, the frames of its trace are asked for.  When
they cannot be fetched, they are not asked for again yet. -/
theorem tended_after_first_record :
    let history := [(.activeRunChanged (some "a"), 0), (.loaded "a" (.numExecutions 1), 1)]
    let session := (fresh {} (by decide)).applyAll history
    let event := Event.loaded "a" (.executionData ⟨0, 1⟩ [Sample.execution "Op0" ["f", "g"]])
    let after := (session.apply event 2).1
    let command := Command.fetch "a" (.stackFrames ["f", "g"])
    session.apply event 2 = (after, .ok command) ∧ after.activeRun = some "a" ∧
      (after.scope.executions.records[0]?).map (·.frameIds) = some ["f", "g"] ∧
      after.scope.framesInFlight.toList = ["f", "g"] ∧ session.Tended event "a" command after ∧
      ∃ failed, after.apply (.fetchFailed "a" (.stackFrames ["f", "g"])) 3 = (failed, .ok .none) ∧
        failed.unmarked = after.unmarked := by
  intro history session event after command
  have haccepted : session.apply event 2 = (after, .ok command) := by
    refine Prod.ext rfl ?_
    cbv
  refine ⟨haccepted, by decide +kernel, by decide +kernel, by decide +kernel, ?_, ?_⟩
  · exact (tended_after {} (by decide) history event 2).1 "a" command after rfl haccepted
      (by decide +kernel)
  · exact (tended_after {} (by decide) (history ++ [(event, 2)]) event 3).2 "a"
      (.stackFrames ["f", "g"])

end Session

end TraceViewer
