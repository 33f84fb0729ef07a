import TraceViewer.Proofs.Session.NamedData
import TraceViewer.Proofs.Session.ScopeEffort

/-!
# The pursuit of data

A scope marks the data that are fetched by name while they are being fetched, and asks only for
what is neither held nor marked, that is, for what is not yet *sought*.

So it is enough to follow what is sought.  A change *pursues* the data: only what it answers
ceases to be sought, what is held stays held, and what it asks for was not sought before and is
sought afterwards (`RunScope.Pursues`).  Changes one after another do so too, provided that the
later ones answer nothing (`Pursues.trans`), and every change of a scope is made of such parts.

* Operations of the user, and settling, answer nothing (`pursues_operate`, `pursues_settle`).
* A reply answers what it names, if it is accepted or refused as malformed
  (`pursues_onReply`).  A list of source files moreover takes the marks of the files that it
  leaves out.
* A failure answers what the fetch named (`pursues_onFetchFailed`).

What an accepted reply names is held (`held_onReply`).  Only the content of a file may be fetched
again after it was loaded.
-/

namespace TraceViewer

/-! ## Marks of files and ops -/

namespace SourceShelf

theorem not_seeks_of_lacks {shelf : SourceShelf} {file : SourceFile}
    (hlacks : shelf.lacks file = true) : ¬ shelf.seeks file = true :=
  Bool.eq_false_iff.mp (seeks_of_requestFile (requestFile_of_lacks hlacks)).1

/-- What was held or being fetched stays so when a file is marked. -/
theorem seeks_markLoading {shelf : SourceShelf} {file other : SourceFile}
    (hseeks : shelf.seeks other = true) : (shelf.markLoading file).seeks other = true := by
  rw [seeks, Option.any_eq_true] at hseeks ⊢
  obtain ⟨content, hcontent, hphase⟩ := hseeks
  rw [content?_markLoading, hcontent]
  split_ifs
  · exact ⟨_, rfl, by simp⟩
  · exact ⟨content, rfl, hphase⟩

/-- The listed files that a new list leaves out. -/
def dropped (shelf : SourceShelf) (files : List SourceFile) : List SourceFile :=
  shelf.files.filter fun file => file ∉ files

theorem content?_onListLoaded (shelf : SourceShelf) (files : List SourceFile) (now : Nat)
    (file : SourceFile) :
    (shelf.onListLoaded files now).content? file =
      if file ∈ files then some ((shelf.content? file).getD {}) else none := by
  rw [content?, index?]
  change (files.findIdx? (· = file)).bind (fun index =>
    (files.map fun file => (shelf.content? file).getD {})[index]?) = _
  cases hplace : files.findIdx? (· = file) with
  | none =>
      have hunlisted : file ∉ files := fun hlisted =>
        absurd (List.findIdx?_eq_none_iff.mp hplace file hlisted) (by simp)
      rw [if_neg hunlisted, Option.bind_none]
  | some place =>
      obtain ⟨hlt, hfile, _⟩ := List.findIdx?_eq_some_iff_getElem.mp hplace
      have hfile : files[place] = file := of_decide_eq_true hfile
      rw [if_pos (hfile ▸ List.getElem_mem hlt), Option.bind_some, List.getElem?_map,
        List.getElem?_eq_getElem hlt, Option.map_some, hfile]

/-- What was held or being fetched stays so when a list arrives that does not leave it out. -/
theorem seeks_onListLoaded {shelf : SourceShelf} {files : List SourceFile} {file : SourceFile}
    (hkept : file ∉ shelf.dropped files) (hseeks : shelf.seeks file = true) (now : Nat) :
    (shelf.onListLoaded files now).seeks file = true := by
  rw [seeks, Option.any_eq_true] at hseeks
  obtain ⟨content, hcontent, hphase⟩ := hseeks
  obtain ⟨place, hplace, _⟩ := Option.bind_eq_some_iff.mp hcontent
  have hlisted : file ∈ files := by
    by_contra hmissing
    have hbefore : file ∈ shelf.files := List.mem_of_getElem? (getElem?_of_index? hplace)
    exact hkept (List.mem_filter.mpr ⟨hbefore, decide_eq_true hmissing⟩)
  rw [seeks, content?_onListLoaded, if_pos hlisted, hcontent, Option.getD_some, Option.any_some]
  exact hphase

/-- What was held or being fetched stays so when a file arrives. -/
theorem seeks_onFileLoaded {shelf after : SourceShelf} {file other : SourceFile}
    {lines : List String} (hloaded : shelf.onFileLoaded file lines = .ok after)
    (hseeks : shelf.seeks other = true) : after.seeks other = true := by
  rw [seeks, Option.any_eq_true] at hseeks ⊢
  obtain ⟨content, hcontent, hphase⟩ := hseeks
  rw [content?_modifyContent hloaded, hcontent]
  split_ifs
  · exact ⟨_, rfl, by simp⟩
  · exact ⟨content, rfl, hphase⟩

/-- A file without content has none that could have failed. -/
theorem onFileFailed_of_content?_eq_none {shelf : SourceShelf} {file : SourceFile}
    (hcontent : shelf.content? file = none) : shelf.onFileFailed file = shelf := by
  rw [onFileFailed, modifyContent_of_content?_eq_none hcontent]

theorem content?_onFileFailed (shelf : SourceShelf) (file other : SourceFile) :
    (shelf.onFileFailed file).content? other =
      if file = other then (shelf.content? other).map fun content =>
        { content with phase := .failed }
      else shelf.content? other := by
  rw [onFileFailed]
  split
  · next hmodify =>
      split_ifs with hother
      · rw [← hother, (modifyContent_eq_error_iff.mp hmodify).1, Option.map_none]
      · rfl
  · next hmodify => exact content?_modifyContent hmodify other

/-- What was held or being fetched stays so when another file could not be fetched. -/
theorem seeks_onFileFailed {shelf : SourceShelf} {file other : SourceFile} (hother : file ≠ other)
    (hseeks : shelf.seeks other = true) : (shelf.onFileFailed file).seeks other = true := by
  rw [seeks, content?_onFileFailed, if_neg hother]
  exact hseeks

end SourceShelf

namespace RunScope

variable {scope before middle after : RunScope} {run : RunId} {answered more asked : List Datum}

/-! ## Pursuit -/

/-- Whether a piece of data is held.  The content of a file is never held for good. -/
def Held (scope : RunScope) : Datum → Prop
  | .record index => index ∈ scope.executions.records
  | .frame id => id ∈ scope.frames
  | .op key => (scope.ops.op? key).isSome
  | .file _ => False
  | .alerts alertType => alertType ∈ scope.alerts.shelves

/-- Whether a piece of data is held or being fetched. -/
def Sought (scope : RunScope) : Datum → Prop
  | .record index => scope.seeks (.execution index) = true
  | .frame id => scope.seeksFrame id = true
  | .op key => scope.seeks (.graphOpCreation key) = true
  | .file file => scope.sources.seeks file = true
  | .alerts alertType => alertType ∈ scope.alerts.shelves ∨ alertType ∈ scope.alerts.inFlight

theorem sought_of_held {datum : Datum} (hheld : scope.Held datum) : scope.Sought datum := by
  cases datum with
  | record index => exact decide_eq_true (Or.inl hheld)
  | frame id => exact decide_eq_true (Or.inl hheld)
  | op key => exact decide_eq_true (Or.inl hheld)
  | file file => exact hheld.elim
  | alerts alertType => exact Or.inl hheld

theorem sought_datum (scope : RunScope) (origin : FocusOrigin) :
    scope.Sought origin.datum ↔ scope.seeks origin = true := by
  cases origin <;> exact Iff.rfl

/-- Whether no frame is being fetched that is held. -/
def Apart (scope : RunScope) : Prop := ∀ id ∈ scope.framesInFlight, id ∉ scope.frames

/-- What a change does that answers some data and asks for others.  What is sought stays so
unless it was answered, what is held stays held, and what is asked for was neither held nor,
unless it was answered, sought before. -/
structure Pursues (before after : RunScope) (answered asked : List Datum) : Prop where
  sought : ∀ datum, before.Sought datum → datum ∉ answered → after.Sought datum
  held : ∀ datum, before.Held datum → after.Held datum
  frames : ∀ (id : FrameId) (frame : StackFrame),
    before.frames[id]? = some frame → after.frames[id]? = some frame
  apart : before.Apart → after.Apart
  asked_nodup : asked.Nodup
  asked_sought : ∀ datum ∈ asked, after.Sought datum
  asked_new : ∀ datum ∈ asked, before.Sought datum → datum ∈ answered
  asked_unheld : ∀ datum ∈ asked, ¬ before.Held datum

/-- A change that asks for nothing. -/
theorem pursues_quietly
    (hsought : ∀ datum, before.Sought datum → datum ∉ answered → after.Sought datum)
    (hheld : ∀ datum, before.Held datum → after.Held datum)
    (hframes : after.frames = before.frames)
    (hmarks : ∀ id ∈ after.framesInFlight, id ∈ before.framesInFlight) :
    before.Pursues after answered [] where
  sought := hsought
  held := hheld
  frames := by
    rw [hframes]
    exact fun _ _ hframe => hframe
  apart := by
    intro hapart id hid
    rw [hframes]
    exact hapart id (hmarks id hid)
  asked_nodup := List.nodup_nil
  asked_sought := nofun
  asked_new := nofun
  asked_unheld := nofun

/-- A change that touches none of the data: it changes the sequences, what is in focus, the tally
and load states. -/
theorem pursues_elsewhere (scope : RunScope) (digests : Timeline ExecutionDigest)
    (graphExecutions : Timeline GraphExecution) (load : LoadState) (tally : AlertTally)
    (focusType : Option AlertType) (focused : Option GraphOpKey) (location : Option CodeLocation)
    (listLoad : LoadState) (focusLine : Option StackFrame) :
    scope.Pursues
      { scope.withDigests digests with
        graphExecutions
        alerts := { scope.alerts with load, tally, focusType }
        ops := { scope.ops with focused }
        location
        sources := { scope.sources with listLoad, focusLine } } [] [] := by
  refine pursues_quietly (fun datum hdatum _ => ?_) (fun datum hdatum => ?_) rfl fun _ hid => hid
  · cases datum <;> exact hdatum
  · cases datum <;> exact hdatum

theorem pursues_self (scope : RunScope) : scope.Pursues scope [] [] := scope.pursues_elsewhere ..

/-- Records stay held, and those that were being fetched stay sought unless answered. -/
theorem pursues_withExecutions {executions : ExecutionTimeline}
    (hheld : ∀ index ∈ scope.executions.records, index ∈ executions.records)
    (hmarked : ∀ index ∈ scope.executions.recordsInFlight, .record index ∉ answered →
      index ∈ executions.records ∨ index ∈ executions.recordsInFlight) :
    scope.Pursues { scope with executions } answered [] := by
  refine pursues_quietly (fun datum hdatum hopen => ?_) (fun datum hdatum => ?_) rfl
    fun _ hid => hid
  · -- records are the only data that are looked up here
    cases datum with
    | record index =>
        rcases of_decide_eq_true hdatum with hbefore | hbefore
        · exact decide_eq_true (Or.inl (hheld index hbefore))
        · exact decide_eq_true (hmarked index hbefore hopen)
    | _ => exact hdatum
  · cases datum with
    | record index => exact hheld index hdatum
    | _ => exact hdatum

/-- Ops stay held, and those that were being fetched stay sought unless answered. -/
theorem pursues_withOps {ops : OpStore}
    (hheld : ∀ key, (scope.ops.op? key).isSome → (ops.op? key).isSome)
    (hmarked : ∀ key, scope.ops.phase key = .loading → .op key ∉ answered →
      (ops.op? key).isSome ∨ ops.phase key = .loading) :
    scope.Pursues { scope with ops } answered [] := by
  refine pursues_quietly (fun datum hdatum hopen => ?_) (fun datum hdatum => ?_) rfl
    fun _ hid => hid
  · cases datum with
    | op key =>
        rcases of_decide_eq_true hdatum with hbefore | hbefore
        · exact decide_eq_true (Or.inl (hheld key hbefore))
        · exact decide_eq_true (hmarked key hbefore hopen)
    | _ => exact hdatum
  · cases datum with
    | op key => exact hheld key hdatum
    | _ => exact hdatum

/-- Files stay sought unless answered. -/
theorem pursues_withSources {sources : SourceShelf}
    (hsought : ∀ file, scope.sources.seeks file = true → .file file ∉ answered →
      sources.seeks file = true) :
    scope.Pursues { scope with sources } answered [] := by
  refine pursues_quietly (fun datum hdatum hopen => ?_) (fun datum hdatum => ?_) rfl
    fun _ hid => hid
  · cases datum with
    | file file => exact hsought file hdatum hopen
    | _ => exact hdatum
  · cases datum <;> exact hdatum

/-- Alerts stay held, and those that were being fetched stay sought unless answered. -/
theorem pursues_withAlerts {alerts : AlertBoard}
    (hheld : ∀ alertType ∈ scope.alerts.shelves, alertType ∈ alerts.shelves)
    (hmarked : ∀ alertType ∈ scope.alerts.inFlight, .alerts alertType ∉ answered →
      alertType ∈ alerts.shelves ∨ alertType ∈ alerts.inFlight) :
    scope.Pursues { scope with alerts } answered [] := by
  refine pursues_quietly (fun datum hdatum hopen => ?_) (fun datum hdatum => ?_) rfl
    fun _ hid => hid
  · cases datum with
    | alerts alertType =>
        rcases hdatum with hbefore | hbefore
        · exact Or.inl (hheld alertType hbefore)
        · exact hmarked alertType hbefore hopen
    | _ => exact hdatum
  · cases datum with
    | alerts alertType => exact hheld alertType hdatum
    | _ => exact hdatum

/-- A change that asks for data that were not sought. -/
theorem pursues_asking (hnodup : asked.Nodup) (hnew : ∀ datum ∈ asked, ¬ before.Sought datum)
    (hasked : ∀ datum ∈ asked, after.Sought datum)
    (hsought : ∀ datum, before.Sought datum → after.Sought datum)
    (hheld : ∀ datum, before.Held datum → after.Held datum)
    (hframes : after.frames = before.frames) (hapart : before.Apart → after.Apart) :
    before.Pursues after [] asked where
  sought := fun datum hdatum _ => hsought datum hdatum
  held := hheld
  frames := by
    rw [hframes]
    exact fun _ _ hframe => hframe
  apart := hapart
  asked_nodup := hnodup
  asked_sought := hasked
  asked_new := fun datum hdatum hbefore => absurd hbefore (hnew datum hdatum)
  asked_unheld := fun datum hdatum hbefore => hnew datum hdatum (sought_of_held hbefore)

/-- A change that asks for one piece of data, and it is no frame. -/
theorem pursues_asking_one {datum : Datum} (hnew : ¬ before.Sought datum)
    (hasked : after.Sought datum) (hsought : ∀ other, before.Sought other → after.Sought other)
    (hheld : ∀ other, before.Held other → after.Held other)
    (hframes : after.frames = before.frames)
    (hmarks : after.framesInFlight = before.framesInFlight) :
    before.Pursues after [] [datum] := by
  refine pursues_asking (List.pairwise_singleton _ datum) ?_ ?_ hsought hheld hframes ?_
  · intro other hother
    rw [List.mem_singleton.mp hother]
    exact hnew
  · intro other hother
    rw [List.mem_singleton.mp hother]
    exact hasked
  · rw [Apart, Apart, hframes, hmarks]
    exact id

theorem Pursues.mono (hpursues : before.Pursues after answered asked)
    (hsub : ∀ datum ∈ answered, datum ∈ more) : before.Pursues after more asked :=
  { hpursues with
    sought := fun datum hdatum hopen => hpursues.sought datum hdatum fun hanswered =>
      hopen (hsub datum hanswered)
    asked_new := fun datum hasked hdatum => hsub datum (hpursues.asked_new datum hasked hdatum) }

/-- What is asked for is sought from then on, and so it is not asked for again. -/
theorem Pursues.trans (hfirst : before.Pursues middle answered asked)
    (hsecond : middle.Pursues after [] more) :
    before.Pursues after answered (asked ++ more) where
  sought := fun datum hdatum hopen =>
    hsecond.sought datum (hfirst.sought datum hdatum hopen) List.not_mem_nil
  held := fun datum hdatum => hsecond.held datum (hfirst.held datum hdatum)
  frames := fun id frame hframe => hsecond.frames id frame (hfirst.frames id frame hframe)
  apart := fun hapart => hsecond.apart (hfirst.apart hapart)
  asked_nodup := by
    rw [List.nodup_append]
    refine ⟨hfirst.asked_nodup, hsecond.asked_nodup, ?_⟩
    -- what was asked for first is sought by then, so the later change does not ask for it
    rintro datum hdatum other hother rfl
    exact List.not_mem_nil (hsecond.asked_new datum hother (hfirst.asked_sought datum hdatum))
  asked_sought := by
    intro datum hdatum
    rcases List.mem_append.mp hdatum with hdatum | hdatum
    · exact hsecond.sought datum (hfirst.asked_sought datum hdatum) List.not_mem_nil
    · exact hsecond.asked_sought datum hdatum
  asked_new := by
    intro datum hdatum hbefore
    rcases List.mem_append.mp hdatum with hdatum | hdatum
    · exact hfirst.asked_new datum hdatum hbefore
    · by_contra hopen
      exact List.not_mem_nil (hsecond.asked_new datum hdatum (hfirst.sought datum hbefore hopen))
  asked_unheld := by
    intro datum hdatum hbefore
    rcases List.mem_append.mp hdatum with hdatum | hdatum
    · exact hfirst.asked_unheld datum hdatum hbefore
    · exact hsecond.asked_unheld datum hdatum (hfirst.held datum hbefore)

theorem Pursues.trans_quiet (hfirst : before.Pursues middle answered asked)
    (hsecond : middle.Pursues after [] []) : before.Pursues after answered asked := by
  have hboth := hfirst.trans hsecond
  rw [List.append_nil] at hboth
  exact hboth

/-! ## Operations of the user -/

/-- Moving a window asks for pages only. -/
theorem dataOf_scroll (scope : RunScope) (run : RunId) (kind : SequenceKind)
    (step : ScrollStep) : dataOf (Command.queueOf (scope.scroll run kind step).2) = [] := by
  cases kind with
  | executions => exact scope.executions.digests.dataOf_scroll run step
  | graphExecutions => exact scope.graphExecutions.dataOf_scroll run step

theorem pursues_scroll (scope : RunScope) (run : RunId) (kind : SequenceKind)
    (step : ScrollStep) :
    scope.Pursues (scope.scroll run kind step).1 []
      (dataOf (Command.queueOf (scope.scroll run kind step).2)) := by
  rw [dataOf_scroll]
  cases kind <;> exact scope.pursues_elsewhere ..

/-- Alerts are asked for when they are neither held nor being fetched. -/
theorem pursues_requestAlerts (scope : RunScope) (run : RunId) (alertType : AlertType) :
    scope.Pursues (scope.requestAlerts run alertType).1 []
      (dataOf (scope.requestAlerts run alertType).2.queue) := by
  rw [requestAlerts, AlertBoard.requestType]
  split_ifs with hsought
  · exact scope.pursues_self
  · rw [not_or, not_or] at hsought
    refine pursues_asking_one (not_or.mpr hsought.2) (Or.inr Std.ExtTreeSet.mem_insert_self) ?_
      (fun other => by cases other <;> exact id) rfl rfl
    intro other hother
    cases other with
    | alerts other =>
        exact hother.imp_right fun hmarked => Std.ExtTreeSet.mem_insert.mpr (Or.inr hmarked)
    | _ => exact hother

theorem pursues_toggleAlerts (scope : RunScope) (run : RunId) (alertType : AlertType) :
    scope.Pursues (scope.toggleAlerts run alertType).1 []
      (dataOf (Command.queueOf (scope.toggleAlerts run alertType).2)) := by
  have htoggled : scope.Pursues { scope with alerts := scope.alerts.toggleFocus alertType } [] [] :=
    scope.pursues_elsewhere ..
  refine toggleAlerts_induct (motive := fun after queue => scope.Pursues after [] (dataOf queue))
    alertType htoggled ?_ ?_
  · intro index
    exact htoggled.trans (pursues_scroll _ run .executions (.recenter index))
  · intro moved queue hmoved
    rw [dataOf_append]
    exact hmoved.trans (pursues_requestAlerts moved run alertType)

theorem pursues_requestOp (scope : RunScope) (run : RunId) (key : GraphOpKey) :
    scope.Pursues (scope.requestOp run key).1 [] (dataOf (scope.requestOp run key).2.queue) := by
  rw [requestOp, OpStore.request]
  split_ifs with hsought
  · exact scope.pursues_self
  · -- the op is asked for because it is neither held nor marked
    have hseeks : ∀ other, (scope.ops.setPhase key .loading).phase other =
        if key = other then .loading else scope.ops.phase other :=
      scope.ops.phase_setPhase key .loading
    refine pursues_asking_one (fun hbefore => hsought (of_decide_eq_true hbefore)) ?_ ?_
      (fun other => by cases other <;> exact id) rfl rfl
    · refine decide_eq_true (Or.inr ?_)
      rw [hseeks, if_pos rfl]
    · intro other hother
      cases other with
      | op other =>
          refine decide_eq_true ((of_decide_eq_true hother).imp_right fun hmarked => ?_)
          rw [hseeks, hmarked]
          split_ifs <;> rfl
      | _ => exact hother

theorem pursues_requestFile (scope : RunScope) (run : RunId) (file : SourceFile) :
    scope.Pursues (scope.requestFile run file).1 []
      (dataOf (Command.queueOf (scope.requestFile run file).2)) := by
  rw [requestFile]
  by_cases hlacks : scope.sources.lacks file = true
  · have hrequest := SourceShelf.requestFile_of_lacks hlacks
    obtain ⟨hnew, hasked⟩ := SourceShelf.seeks_of_requestFile hrequest
    rw [hrequest]
    refine pursues_asking_one (Bool.eq_false_iff.mp hnew) hasked ?_
      (fun other => by cases other <;> exact id) rfl rfl
    intro other hother
    cases other with
    | file other => exact SourceShelf.seeks_markLoading hother
    | _ => exact hother
  · -- an unlisted file is refused, and one that is held or marked is left alone
    rcases SourceShelf.requestFile_of_not_lacks (Bool.eq_false_iff.mpr hlacks) with
      ⟨error, hrefused⟩ | hheld
    · rw [hrefused]
      exact scope.pursues_self
    · rw [hheld]
      exact scope.pursues_self

/-- A refresh asks for totals and lists. -/
theorem dataOf_refresh (scope : RunScope) (run : RunId) :
    dataOf (scope.refresh run).2.queue = [] := by
  rw [refresh, Command.queue_combine]
  simp only [List.flatMap_cons, List.flatMap_nil, Timeline.requestTotal, Command.queue,
    dataOf_append, dataOf_singleton, dataOf_nil, Timeline.data_totalRequest]
  rfl

theorem pursues_operate (scope : RunScope) (run : RunId) (operation : Operation) :
    scope.Pursues (scope.operate run operation).1 []
      (dataOf (Command.queueOf (scope.operate run operation).2)) := by
  cases operation with
  | refresh =>
      change scope.Pursues (scope.refresh run).1 [] (dataOf (scope.refresh run).2.queue)
      rw [dataOf_refresh]
      exact scope.pursues_elsewhere ..
  | scroll kind step => exact pursues_scroll ..
  | focusByOffset kind offset =>
      cases kind with
      | executions => exact scope.pursues_elsewhere ..
      | graphExecutions =>
          rw [operate, focusByOffset]
          dsimp only
          split <;> exact scope.pursues_elsewhere ..
  | toggleAlerts alertType => exact pursues_toggleAlerts ..
  | focusOp key =>
      exact scope.pursues_elsewhere ..
  | requestOp key => exact pursues_requestOp ..
  | requestFile file => exact pursues_requestFile ..

/-! ## Settling -/

theorem nodup_missingFrames (scope : RunScope) : scope.missingFrames.Nodup := by
  rw [missingFrames]
  cases scope.focusOrigin.bind scope.originFrameIds with
  | none => exact List.nodup_nil
  | some ids => exact StackTrace.nodup_firstOccurrences _

/-- What settling marks was neither held nor being fetched, and it asks for that. -/
theorem pursues_grant {wants : Wants} (hlacks : scope.Lacks wants) (hnodup : wants.frames.Nodup)
    (run : RunId) : scope.Pursues (scope.grant wants) [] (dataOf (wants.command run).queue) := by
  -- what is sought afterwards: what was, and what is wanted
  have hframe : ∀ id, (scope.grant wants).seeksFrame id = true ↔
      scope.seeksFrame id = true ∨ id ∈ wants.frames := by
    intro id
    simp [seeksFrame, grant, or_assoc]
  have horigin : ∀ origin, (scope.grant wants).seeks origin = true ↔
      scope.seeks origin = true ∨ wants.origin = some origin := by
    intro origin
    rw [seeks_grant, Bool.or_eq_true, decide_eq_true_eq]
  have hfile : ∀ file, scope.sources.seeks file = true ∨ wants.file = some file →
      (scope.grant wants).sources.seeks file = true := by
    intro file hfile
    change (wants.file.elim scope.sources scope.sources.markLoading).seeks file = true
    cases hgranted : wants.file with
    | none =>
        rw [hgranted] at hfile
        exact hfile.resolve_right (by simp)
    | some granted =>
        rw [hgranted] at hfile
        rcases hfile with hsought | hasked
        · exact SourceShelf.seeks_markLoading hsought
        · rw [← Option.some.inj hasked]
          exact (SourceShelf.seeks_of_requestFile
            (SourceShelf.requestFile_of_lacks (hlacks.file granted hgranted))).2
  rw [Wants.data_command]
  refine pursues_asking (wants.nodup_data hnodup) ?_ ?_ ?_ ?_ rfl ?_
  · intro datum hdatum
    rcases Wants.mem_data.mp hdatum with ⟨origin, hwanted, rfl⟩ | ⟨id, hwanted, rfl⟩ |
      ⟨file, hwanted, rfl⟩
    · rw [sought_datum, hlacks.origin origin hwanted]
      exact Bool.false_ne_true
    · exact Bool.eq_false_iff.mp (hlacks.frames id hwanted)
    · exact SourceShelf.not_seeks_of_lacks (hlacks.file file hwanted)
  · intro datum hdatum
    rcases Wants.mem_data.mp hdatum with ⟨origin, hwanted, rfl⟩ | ⟨id, hwanted, rfl⟩ |
      ⟨file, hwanted, rfl⟩
    · exact (sought_datum ..).mpr ((horigin origin).mpr (Or.inr hwanted))
    · exact (hframe id).mpr (Or.inr hwanted)
    · exact hfile file (Or.inr hwanted)
  · intro datum hdatum
    cases datum with
    | record index => exact (horigin _).mpr (Or.inl hdatum)
    | frame id => exact (hframe id).mpr (Or.inl hdatum)
    | op key => exact (horigin _).mpr (Or.inl hdatum)
    | file file => exact hfile file (Or.inl hdatum)
    | alerts alertType => exact hdatum
  · -- marks are set, and nothing else changes
    obtain ⟨origin, frames, file⟩ := wants
    intro datum hdatum
    cases origin with
    | none => cases datum <;> exact hdatum
    | some origin => cases origin <;> cases datum <;> exact hdatum
  · -- a frame that is wanted is not held
    intro hapart id hmarked
    change id ∈ scope.framesInFlight.insertMany wants.frames at hmarked
    rw [Std.ExtTreeSet.mem_insertMany_list] at hmarked
    rcases hmarked with hmarked | hwanted
    · exact hapart id hmarked
    · exact hlacks.not_mem_frames (by simpa using hwanted)

theorem pursues_settle (scope : RunScope) (run : RunId) (sticky : Bool) :
    scope.Pursues (scope.settle run sticky).1 [] (dataOf (scope.settle run sticky).2.queue) := by
  obtain ⟨focusLine, hfollowed, _⟩ := scope.followed_eq sticky
  have hmoved : scope.Pursues (scope.followed sticky) [] [] := by
    rw [hfollowed]
    exact scope.pursues_elsewhere ..
  rw [settle_eq_grant, ← scope.wants_followed sticky]
  exact hmoved.trans (pursues_grant (lacks_wants _) (nodup_missingFrames _) run)

/-! ## Replies -/

theorem pursues_numExecutions (scope : RunScope) (run : RunId) (now total : Nat) :
    scope.Pursues (scope.onReply run now (.numExecutions total)).1 []
      (dataOf (Command.queueOf
        ((scope.onReply run now (.numExecutions total)).2.map Prod.fst))) := by
  refine numExecutions_induct (motive := fun after queue => scope.Pursues after [] (dataOf queue))
    now total ?_ ?_
  · rw [Timeline.dataOf_onTotal]
    exact scope.pursues_elsewhere ..
  · intro before queue hbefore
    -- the first execution gets the focus, and only settling asks for its data
    have hfocused : before.Pursues (before.focusFirst total) [] [] := by
      rw [focusFirst]
      split_ifs
      · exact before.pursues_elsewhere ..
      · exact before.pursues_self
    exact hbefore.trans_quiet hfocused

/-- The records of a range are answered, whether they fill it or not. -/
theorem pursues_executionData (scope : RunScope) (run : RunId) (now : Nat) (range : Interval)
    (records : List Execution) :
    scope.Pursues (scope.onReply run now (.executionData range records)).1
      (range.indices.map .record) [] := by
  change scope.Pursues { scope with executions := (scope.executions.onRecords range records).1 } _ _
  refine pursues_withExecutions (fun index hindex => ?_) fun index hmarked hopen => Or.inr ?_
  · rw [ExecutionTimeline.onRecords]
    split_ifs
    · exact hindex
    · exact (mem_records_putAll _ _ _ _).mpr (Or.inr hindex)
  · rw [(onRecords_spec scope.executions range records).2, Std.ExtTreeSet.mem_filter]
    refine ⟨hmarked, ?_⟩
    simpa using hopen

theorem pursues_stackFrames (scope : RunScope) (frames : FrameTable) :
    scope.Pursues (scope.putFrames frames) [] [] where
  sought := by
    intro datum hdatum _
    cases datum with
    | frame id => exact scope.seeksFrame_putFrames frames id hdatum
    | _ => exact hdatum
  held := by
    intro datum hdatum
    cases datum with
    | frame id => exact mem_foldl_insertIfNew.mpr (Or.inl hdatum)
    | _ => exact hdatum
  frames := fun _ _ hframe => getElem?_foldl_insertIfNew_of_held frames hframe
  apart := by
    intro hapart id hmarked
    change id ∈ scope.framesInFlight.filter _ at hmarked
    rw [Std.ExtTreeSet.mem_filter] at hmarked
    obtain ⟨hmarked, hother⟩ := hmarked
    intro hheld
    -- a frame that arrived just now has lost its mark
    rcases mem_foldl_insertIfNew.mp hheld with hheld | harrived
    · exact hapart id hmarked hheld
    · simp [harrived] at hother
  asked_nodup := List.nodup_nil
  asked_sought := nofun
  asked_new := nofun
  asked_unheld := nofun

theorem pursues_graphOpInfo (scope : RunScope) (op : GraphOp) :
    scope.Pursues { scope with ops := (scope.ops.onLoaded op).1 } [] [] :=
  pursues_withOps (fun _ hheld => scope.ops.isSome_op?_onLoaded op hheld)
    fun _ hmarked _ => scope.ops.seeks_onLoaded op (Or.inr hmarked)

/-- A list stands in for an answer to the fetches of the files that it leaves out. -/
theorem pursues_sourceFileList (scope : RunScope) (files : List SourceFile) (now : Nat) :
    scope.Pursues { scope with sources := scope.sources.onListLoaded files now }
      ((scope.sources.dropped files).map .file) [] := by
  refine pursues_withSources fun file hsought hopen => ?_
  have hkept : file ∉ scope.sources.dropped files := fun hdropped =>
    hopen (List.mem_map_of_mem hdropped)
  exact SourceShelf.seeks_onListLoaded hkept hsought now

theorem pursues_sourceFile (scope : RunScope) {file : SourceFile} {lines : List String}
    {sources : SourceShelf} (hloaded : scope.sources.onFileLoaded file lines = .ok sources) :
    scope.Pursues { scope with sources } [] [] :=
  pursues_withSources fun _ hsought _ => SourceShelf.seeks_onFileLoaded hloaded hsought

theorem pursues_requestFocusedAlerts (scope : RunScope) (run : RunId) :
    scope.Pursues (scope.requestFocusedAlerts run).1 []
      (dataOf (scope.requestFocusedAlerts run).2.queue) := by
  rw [requestFocusedAlerts]
  split
  · exact scope.pursues_self
  · exact scope.pursues_requestAlerts run _

theorem pursues_jump (scope : RunScope) (run : RunId) (target : AlertJump) :
    scope.Pursues (scope.jump run target).1 []
      (dataOf (Command.queueOf (scope.jump run target).2)) := by
  have hmoved := scope.pursues_scroll run .executions (.recenter target.executionIndex)
  rw [jump]
  rcases hscroll : scope.scroll run .executions (.recenter target.executionIndex) with
    ⟨moved, error | command⟩ <;> rw [hscroll] at hmoved
  · exact hmoved
  · cases target.graphExecutionIndex with
    | none => exact hmoved
    | some index => exact hmoved.trans_quiet (moved.pursues_elsewhere ..)

theorem pursues_merge (scope : RunScope) (now : Nat) (alertType : AlertType) (range : Interval)
    (tally : AlertTally) (alerts : List Alert) :
    scope.Pursues { scope with alerts := scope.alerts.merge alertType range tally alerts now }
      [] [] := by
  refine pursues_withAlerts (fun _ hheld => Std.ExtTreeMap.mem_insert.mpr (Or.inr hheld))
    fun other hmarked _ => ?_
  by_cases hsame : alertType = other
  · exact Or.inl (hsame ▸ Std.ExtTreeMap.mem_insert_self)
  · refine Or.inr (Std.ExtTreeSet.mem_erase.mpr ⟨?_, hmarked⟩)
    rw [ne_eq, Std.LawfulEqOrd.compare_eq_iff_eq]
    exact hsame

theorem pursues_alertsFailed (scope : RunScope) (alertType : AlertType) :
    scope.Pursues { scope with alerts := scope.alerts.onFailed (some alertType) }
      [.alerts alertType] [] := by
  refine pursues_withAlerts (fun _ hheld => hheld) fun other hmarked hopen => Or.inr ?_
  refine Std.ExtTreeSet.mem_erase.mpr ⟨?_, hmarked⟩
  rw [ne_eq, Std.LawfulEqOrd.compare_eq_iff_eq]
  rintro rfl
  exact hopen List.mem_cons_self

/-- The listed files that a reply drops from the list. -/
def dropped (scope : RunScope) : Reply → List SourceFile
  | .sourceFileList files => scope.sources.dropped files
  | _ => []

/-- A reply answers the data that it names, and asks only for what was not sought. -/
theorem pursues_onReply (scope : RunScope) (run : RunId) (now : Nat) (reply : Reply) :
    scope.Pursues (scope.onReply run now reply).1
      (reply.answers (scope.onReply run now reply).2 ++ (scope.dropped reply).map .file)
      (dataOf (Command.queueOf ((scope.onReply run now reply).2.map Prod.fst))) := by
  -- most replies bring what they name, so nothing ceases to be sought by them
  have hnothing : ∀ (answered : List Datum), ∀ datum ∈ ([] : List Datum), datum ∈ answered := nofun
  cases reply with
  | numExecutions total => exact (scope.pursues_numExecutions run now total).mono (hnothing _)
  | numGraphExecutions total =>
      have hnone := scope.graphExecutions.dataOf_onTotal run total now
      rw [onReply]
      dsimp only
      rw [hnone]
      exact Pursues.mono (scope.pursues_elsewhere ..) (hnothing _)
  | executionDigests batch =>
      have hnone := scope.executions.digests.dataOf_onPage run batch now
      rw [onReply]
      dsimp only
      rw [hnone]
      exact Pursues.mono (scope.pursues_elsewhere ..) (hnothing _)
  | graphExecutions batch =>
      have hnone := scope.graphExecutions.dataOf_onPage run batch now
      rw [onReply]
      dsimp only
      rw [hnone]
      exact Pursues.mono (scope.pursues_elsewhere ..) (hnothing _)
  | executionData range records =>
      -- refused or not, the marks of the whole range are taken
      have hanswers : (Reply.executionData range records).answers
            (scope.onReply run now (.executionData range records)).2 =
              range.indices.map .record ∧
          Command.queueOf ((scope.onReply run now (.executionData range records)).2.map Prod.fst) =
            [] := by
        rw [onReply, ExecutionTimeline.onRecords]
        split_ifs <;> exact ⟨rfl, rfl⟩
      rw [hanswers.1, hanswers.2]
      exact (scope.pursues_executionData run now range records).mono fun _ =>
        List.mem_append_left _
  | stackFrames frames => exact (scope.pursues_stackFrames frames).mono (hnothing _)
  | graphOpInfo op =>
      have hpursues := scope.pursues_graphOpInfo op
      rw [onReply]
      rcases hloaded : scope.ops.onLoaded op with ⟨ops, error | _⟩ <;> rw [hloaded] at hpursues <;>
        exact hpursues.mono (hnothing _)
  | sourceFileList files => exact scope.pursues_sourceFileList files now
  | sourceFile file lines =>
      rw [onReply]
      rcases hloaded : scope.sources.onFileLoaded file lines with error | sources
      · exact scope.pursues_self.mono (hnothing _)
      · exact (scope.pursues_sourceFile hloaded).mono (hnothing _)
  | numAlertsAndBreakdown tally =>
      let tallied : RunScope := { scope with alerts := (scope.alerts.onTally tally now).1 }
      have htallied : scope.Pursues tallied [] [] := scope.pursues_elsewhere ..
      exact (htallied.trans (tallied.pursues_requestFocusedAlerts run)).mono (hnothing _)
  | alertsOfType alertType range tally alerts =>
      rw [onReply, onAlerts, AlertBoard.checkBatch]
      split_ifs
      · -- a batch that does not fit is no answer, but its kind is released
        exact scope.pursues_alertsFailed alertType
      · have hmerged := scope.pursues_merge now alertType range tally alerts
        dsimp only
        cases AlertBoard.jumpOf range alerts with
        | none => exact hmerged.mono (hnothing _)
        | some target =>
            -- by then the alerts are held, so the jump can ask for pages only
            have hmoved := hmerged.trans (pursues_jump _ run target)
            dsimp only
            rcases hjump : jump _ run target with ⟨moved, error | command⟩ <;>
              rw [hjump] at hmoved <;> exact hmoved.mono (hnothing _)

/-! ## Failures -/

/-- A failure answers what was asked for, and asks for nothing. -/
theorem pursues_onFetchFailed (scope : RunScope) (request : Request) :
    scope.Pursues (scope.onFetchFailed request) request.data [] := by
  cases request with
  | numExecutions | numGraphExecutions | sourceFileList | numAlertsAndBreakdown =>
      exact scope.pursues_elsewhere ..
  | page kind range => cases kind <;> exact scope.pursues_elsewhere ..
  | executionData range =>
      refine pursues_withExecutions (fun _ hheld => hheld) fun index hmarked hopen => Or.inr ?_
      refine Std.ExtTreeSet.mem_filter.mpr ⟨hmarked, ?_⟩
      simpa [Request.data] using hopen
  | stackFrames ids =>
      refine pursues_quietly (fun datum hdatum hopen => ?_) (fun datum hdatum => ?_) rfl
        fun id hid => (Std.ExtTreeSet.mem_filter.mp hid).1
      · cases datum with
        | frame id =>
            refine decide_eq_true ((of_decide_eq_true hdatum).imp_right fun hmarked => ?_)
            refine Std.ExtTreeSet.mem_filter.mpr ⟨hmarked, ?_⟩
            simpa [Request.data] using hopen
        | _ => exact hdatum
      · cases datum <;> exact hdatum
  | graphOpInfo key =>
      refine pursues_withOps (fun other hheld => ?_) fun other hmarked hopen => Or.inr ?_
      · rw [OpStore.onFailed, OpStore.op?_updatePhase]
        exact hheld
      · have hother : key ≠ other := by
          rintro rfl
          exact hopen List.mem_cons_self
        exact (scope.ops.phase_updatePhase_of_ne hother .failed).trans hmarked
  | sourceFile file =>
      refine pursues_withSources fun other hsought hopen => ?_
      refine SourceShelf.seeks_onFileFailed ?_ hsought
      rintro rfl
      exact hopen List.mem_cons_self
  | alertsOfType alertType range => exact scope.pursues_alertsFailed alertType

/-! ## What was loaded -/

/-- What a reply names is held once the reply was accepted, and the reply does not ask for it.
The content of a file is never held for good. -/
theorem held_onReply {scope : RunScope} {run : RunId} {now : Nat} {reply : Reply}
    (haccepted : (scope.onReply run now reply).2.isOk = true) {datum : Datum}
    (hnamed : datum ∈ reply.data) (hother : ∀ file, datum ≠ .file file) :
    (scope.onReply run now reply).1.Held datum ∧
      datum ∉ dataOf (Command.queueOf ((scope.onReply run now reply).2.map Prod.fst)) := by
  cases reply with
  | executionData range records =>
      rw [onReply, ExecutionTimeline.onRecords] at haccepted ⊢
      split_ifs at haccepted ⊢ with hmisfit
      · cases haccepted
      · obtain ⟨index, hindex, rfl⟩ := List.mem_map.mp hnamed
        obtain ⟨hle, hlt⟩ := Interval.mem_indices.mp hindex
        rw [not_or, not_lt, not_not, Interval.length] at hmisfit
        refine ⟨(mem_records_putAll _ _ _ _).mpr (Or.inl ⟨hle, ?_⟩), List.not_mem_nil⟩
        omega
  | stackFrames frames =>
      obtain ⟨id, hid, rfl⟩ := List.mem_map.mp hnamed
      refine ⟨mem_foldl_insertIfNew.mpr (Or.inr ?_), List.not_mem_nil⟩
      exact Std.ExtTreeMap.mem_keys.mp hid
  | graphOpInfo op =>
      obtain ⟨graphId, hgraph, rfl⟩ := List.mem_map.mp hnamed
      rw [Option.mem_toList] at hgraph
      refine ⟨scope.ops.isSome_op?_onLoaded_self hgraph, ?_⟩
      rw [onReply, OpStore.onLoaded, hgraph]
      exact List.not_mem_nil
  | sourceFile file lines => exact absurd (List.mem_singleton.mp hnamed) (hother file)
  | alertsOfType alertType range tally alerts =>
      rw [List.mem_singleton.mp hnamed]
      rw [onReply, onAlerts, AlertBoard.checkBatch] at haccepted ⊢
      split_ifs at haccepted ⊢
      · cases haccepted
      · let merged : RunScope :=
          { scope with alerts := scope.alerts.merge alertType range tally alerts now }
        have hheld : merged.Held (.alerts alertType) := Std.ExtTreeMap.mem_insert_self
        dsimp only
        cases AlertBoard.jumpOf range alerts with
        | none => exact ⟨hheld, List.not_mem_nil⟩
        | some target =>
            -- were the jump to ask for the alerts, they would not be held
            have hmoved := pursues_jump merged run target
            refine ⟨hmoved.held _ hheld, fun hasked => hmoved.asked_unheld _ ?_ hheld⟩
            dsimp only at hasked
            generalize merged.jump run target = moved at hasked ⊢
            rcases moved with ⟨moved, error | command⟩ <;> exact hasked
  | _ => cases hnamed

end RunScope

end TraceViewer
