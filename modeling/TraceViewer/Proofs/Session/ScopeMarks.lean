import TraceViewer.Session.Settle
import TraceViewer.Proofs.Session.Marks
import TraceViewer.Proofs.Session.ScopeSteps
import TraceViewer.Proofs.Session.UserEvents

/-!
# The marks of a scope

What each operation of the scope of a run does to its marks: an operation of the user,
and settling, mark only what they ask for (`leaves_operate`, `leaves_settle`).  An
operation that is refused asks for nothing, and it marks nothing either.

There is one lemma for each component of a scope that an operation may change
(`leaves_withDigests`, `leaves_withOps` and the like).  The operations only quote these.
-/

namespace TraceViewer

/-! ## Shelves and stores -/

namespace OpStore

theorem phase?_setPhase (store : OpStore) (key : GraphOpKey) (phase : LoadPhase)
    (other : GraphOpKey) :
    (store.setPhase key phase).phase? other =
      if key = other then some phase else store.phase? other := by
  by_cases hgraph : key.graphId = other.graphId
  · by_cases hname : key.opName = other.opName
    · have hkey : key = other := by
        cases key
        cases other
        cases hgraph
        cases hname
        rfl
      simp [setPhase, phase?, hkey]
    · have hkey : key ≠ other := fun heq => hname (congrArg _ heq)
      cases hold : store.phases[other.graphId]? <;>
        simp [setPhase, phase?, hkey, hname, hgraph, hold, Std.ExtTreeMap.getElem?_insert]
  · have hkey : key ≠ other := fun heq => hgraph (congrArg _ heq)
    simp [setPhase, phase?, hkey, hgraph, Std.ExtTreeMap.getElem?_insert]

theorem phase_setPhase (store : OpStore) (key : GraphOpKey) (phase : LoadPhase)
    (other : GraphOpKey) :
    (store.setPhase key phase).phase other = if key = other then phase else store.phase other := by
  rw [OpStore.phase, phase?_setPhase]
  split_ifs <;> rfl

/-- Correcting a stage changes nothing but stages. -/
theorem updatePhase_eq (store : OpStore) (key : GraphOpKey) (phase : LoadPhase) :
    ∃ phases, store.updatePhase key phase = { store with phases } := by
  rw [updatePhase]
  split_ifs
  · exact ⟨_, rfl⟩
  · exact ⟨store.phases, rfl⟩

/-- Correcting a stage to one that is not loading leaves no mark under the key. -/
theorem phase_updatePhase (store : OpStore) (key : GraphOpKey) {phase : LoadPhase}
    (hphase : phase ≠ .loading) {other : GraphOpKey}
    (hloading : (store.updatePhase key phase).phase other = .loading) :
    store.phase other = .loading ∧ key ≠ other := by
  rw [updatePhase] at hloading
  split_ifs at hloading with hasked
  · rw [phase_setPhase] at hloading
    split_ifs at hloading with hkey
    · exact absurd hloading hphase
    · exact ⟨hloading, hkey⟩
  · refine ⟨hloading, ?_⟩
    rintro rfl
    rw [Bool.not_eq_true, Option.isSome_eq_false_iff, Option.isNone_iff_eq_none] at hasked
    rw [OpStore.phase, hasked] at hloading
    cases hloading

end OpStore

namespace SourceShelf

/-- Whether the content of a listed file is loading. -/
def IsLoading (shelf : SourceShelf) (file : SourceFile) : Prop :=
  ∃ (index : Nat) (content : FileContent), shelf.files[index]? = some file ∧
    shelf.contents[index]? = some content ∧ content.phase = .loading

theorem getElem?_of_index? {shelf : SourceShelf} {file : SourceFile} {index : Nat}
    (hindex : shelf.index? file = some index) : shelf.files[index]? = some file := by
  obtain ⟨hlt, hfile, _⟩ := List.findIdx?_eq_some_iff_getElem.mp hindex
  rw [List.getElem?_eq_some_iff]
  exact ⟨hlt, by simpa using hfile⟩

theorem isSome_index? {shelf : SourceShelf} {file : SourceFile} :
    (shelf.index? file).isSome = true ↔ file ∈ shelf.files := by
  rw [index?, List.findIdx?_isSome]
  simp

/-! ### Changing a content -/

section Contents

variable {shelf marked : SourceShelf} {file other : SourceFile} {place : Nat}
  {change : FileContent → FileContent} {error : ViewError}

theorem place?_eq_some_iff :
    shelf.place? file = some place ↔
      shelf.index? file = some place ∧ place < shelf.contents.length := by
  rw [place?, Option.filter_eq_some_iff, decide_eq_true_eq]

theorem place?_eq_none_iff : shelf.place? file = none ↔ shelf.content? file = none := by
  rw [place?, content?]
  cases shelf.index? file <;> simp

/-- A file that has no content is refused. -/
theorem modifyContent_of_content?_eq_none (hcontent : shelf.content? file = none)
    (change : FileContent → FileContent) :
    shelf.modifyContent file change = .error (.unknownSourceFile file) := by
  rw [modifyContent, place?_eq_none_iff.mpr hcontent]

theorem modifyContent_eq_error_iff :
    shelf.modifyContent file change = .error error ↔
      shelf.content? file = none ∧ error = .unknownSourceFile file := by
  rw [modifyContent, ← place?_eq_none_iff]
  cases shelf.place? file <;> simp [eq_comm]

/-- The content in the place of the file is changed. -/
theorem modifyContent_eq_ok_iff :
    shelf.modifyContent file change = .ok marked ↔
      ∃ place, shelf.index? file = some place ∧ place < shelf.contents.length ∧
        marked = { shelf with contents := shelf.contents.modify place change } := by
  rw [modifyContent]
  simp only [← and_assoc, ← place?_eq_some_iff]
  cases shelf.place? file <;> simp [eq_comm]

/-- Changing the content of a file changes that of no other file. -/
theorem isLoading_modifyContent (hnodup : shelf.files.Nodup)
    (hmodify : shelf.modifyContent file change = .ok marked) (hloading : marked.IsLoading other) :
    shelf.IsLoading other ∧ file ≠ other ∨
      file = other ∧ ∃ content, (change content).phase = .loading := by
  obtain ⟨place, hindex, _, rfl⟩ := modifyContent_eq_ok_iff.mp hmodify
  obtain ⟨index, content, hfile, hcontent, hphase⟩ := hloading
  dsimp only at hfile hcontent
  have hplace := getElem?_of_index? hindex
  rw [List.getElem?_modify, Option.map_eq_map, Option.map_eq_some_iff] at hcontent
  obtain ⟨old, hold, hchanged⟩ := hcontent
  by_cases heq : place = index
  · subst heq
    -- the place that is changed is the one of the file
    rw [hplace, Option.some.injEq] at hfile
    rw [if_pos rfl] at hchanged
    exact Or.inr ⟨hfile, old, hchanged ▸ hphase⟩
  · -- no file is listed twice, so another place is that of another file
    rw [if_neg heq] at hchanged
    refine Or.inl ⟨⟨index, old, hfile, hold, hchanged ▸ hphase⟩, ?_⟩
    rintro rfl
    exact heq ((List.getElem?_inj (List.getElem?_eq_some_iff.mp hplace).1 hnodup).mp
      (hplace.trans hfile.symm))

theorem files_modifyContent (hmodify : shelf.modifyContent file change = .ok marked) :
    marked.files = shelf.files ∧ marked.listLoad = shelf.listLoad := by
  obtain ⟨_, _, _, rfl⟩ := modifyContent_eq_ok_iff.mp hmodify
  exact ⟨rfl, rfl⟩

/-- A file whose content cannot be changed has none, so it is not loading. -/
theorem not_isLoading_of_error (hmodify : shelf.modifyContent file change = .error error) :
    ¬ shelf.IsLoading file := by
  rintro ⟨index, content, hfile, hcontent, _⟩
  have hnone := (modifyContent_eq_error_iff.mp hmodify).1
  obtain ⟨place, hplace⟩ := Option.isSome_iff_exists.mp
    (isSome_index?.mpr (List.mem_of_getElem? hfile))
  rw [content?, hplace, Option.bind_some, List.getElem?_eq_none_iff] at hnone
  -- the file is listed first at its place, so the place is not past the content
  obtain ⟨_, _, hfirst⟩ := List.findIdx?_eq_some_iff_getElem.mp hplace
  obtain ⟨hindex, hfile⟩ := List.getElem?_eq_some_iff.mp hfile
  have hlt := (List.getElem?_eq_some_iff.mp hcontent).1
  exact hfirst index (by omega) (decide_eq_true hfile)

/-- Whether there is one content for each listed file. -/
def Aligned (shelf : SourceShelf) : Prop := shelf.contents.length = shelf.files.length

theorem Aligned.modifyContent (haligned : shelf.Aligned)
    (hmodify : shelf.modifyContent file change = .ok marked) : marked.Aligned := by
  obtain ⟨_, _, _, rfl⟩ := modifyContent_eq_ok_iff.mp hmodify
  exact (List.length_modify ..).trans haligned

/-- A listed file of an aligned shelf has its content. -/
theorem Aligned.exists_content? (haligned : shelf.Aligned) (hlisted : file ∈ shelf.files) :
    ∃ content, shelf.content? file = some content := by
  obtain ⟨place, hplace⟩ := Option.isSome_iff_exists.mp (isSome_index?.mpr hlisted)
  have hlt : place < shelf.contents.length :=
    haligned ▸ (List.getElem?_eq_some_iff.mp (getElem?_of_index? hplace)).1
  exact ⟨shelf.contents[place], by
    rw [content?, hplace, Option.bind_some, List.getElem?_eq_getElem hlt]⟩

/-- What holds of a shelf between events: no file is listed twice, and each has its content. -/
structure Sound (shelf : SourceShelf) : Prop where
  nodup : shelf.files.Nodup
  aligned : shelf.Aligned

theorem Sound.modifyContent (hsound : shelf.Sound)
    (hmodify : shelf.modifyContent file change = .ok marked) : marked.Sound where
  nodup := (files_modifyContent hmodify).1 ▸ hsound.nodup
  aligned := hsound.aligned.modifyContent hmodify

theorem sound_onListLoaded (shelf : SourceShelf) {files : List SourceFile} (hnodup : files.Nodup)
    (now : Nat) : (shelf.onListLoaded files now).Sound :=
  ⟨hnodup, List.length_map _⟩

end Contents

/-- Asking for a file is refused, has no effect, or marks the content as loading. -/
theorem requestFile_spec (shelf : SourceShelf) (file : SourceFile) :
    (∃ error, shelf.requestFile file = .error error) ∨
      shelf.requestFile file = .ok (shelf, false) ∨
      ∃ marked, shelf.modifyContent file (fun content => { content with phase := .loading }) =
          .ok marked ∧ shelf.requestFile file = .ok (marked, true) := by
  rw [requestFile]
  cases shelf.content? file with
  | none => exact Or.inl ⟨_, rfl⟩
  | some content =>
      have hasked : (∃ error, (do return (← shelf.modifyContent file fun content =>
            { content with phase := .loading }, true)) = Except.error error) ∨
          ∃ marked, shelf.modifyContent file (fun content =>
              { content with phase := .loading }) = .ok marked ∧
            (do return (← shelf.modifyContent file fun content =>
              { content with phase := .loading }, true)) = Except.ok (marked, true) := by
        rcases shelf.modifyContent file fun content => { content with phase := .loading } with
          error | marked
        · exact Or.inl ⟨error, rfl⟩
        · exact Or.inr ⟨marked, rfl, rfl⟩
      dsimp only
      -- only a content that is not there and not on its way is asked for
      cases content.phase with
      | loading => exact Or.inr (Or.inl rfl)
      | loaded => exact Or.inr (Or.inl rfl)
      | notLoaded => exact hasked.imp_right Or.inr
      | failed => exact hasked.imp_right Or.inr

/-- A new list keeps what is loading of the files that it lists again. -/
theorem isLoading_onListLoaded {shelf : SourceShelf} {files : List SourceFile} {now : Nat}
    {file : SourceFile} (hloading : (shelf.onListLoaded files now).IsLoading file) :
    shelf.IsLoading file := by
  obtain ⟨index, content, hfile, hcontent, hphase⟩ := hloading
  change files[index]? = some file at hfile
  change (files.map fun file => (shelf.content? file).getD {})[index]? = some content at hcontent
  rw [List.getElem?_map, hfile, Option.map_some, Option.some.injEq] at hcontent
  cases hold : shelf.content? file with
  | none =>
      rw [hold] at hcontent
      subst hcontent
      cases hphase
  | some old =>
      rw [hold, Option.getD_some] at hcontent
      subst hcontent
      rw [content?, Option.bind_eq_some_iff] at hold
      obtain ⟨place, hplace, hold⟩ := hold
      exact ⟨place, old, getElem?_of_index? hplace, hold, hphase⟩

end SourceShelf

/-! ## Marks and soundness -/

namespace RunScope

/-- Whether a scope is waiting for something. -/
def Marked (scope : RunScope) : Mark → Prop
  | .sequence .executions mark => scope.executions.digests.Marked mark
  | .sequence .graphExecutions mark => scope.graphExecutions.Marked mark
  | .record index => index ∈ scope.executions.recordsInFlight
  | .frame id => id ∈ scope.framesInFlight
  | .op key => scope.ops.phase key = .loading
  | .alerts => scope.alerts.load.isLoading = true
  | .alertsOfType alertType => alertType ∈ scope.alerts.inFlight
  | .fileList => scope.sources.listLoad.isLoading = true
  | .file file => scope.sources.IsLoading file

/-- What holds of a scope between events, when the source has `limit` items of each
sequence. -/
structure Sound (limit : SequenceKind → Nat) (scope : RunScope) : Prop where
  digests_kind : scope.executions.digests.kind = .executions
  graph_kind : scope.graphExecutions.kind = .graphExecutions
  digests : scope.executions.digests.Sound (limit .executions)
  graphExecutions : scope.graphExecutions.Sound (limit .graphExecutions)
  sources : scope.sources.Sound

theorem sound_fresh (config : Config) (valid : config.Valid) (limit : SequenceKind → Nat) :
    (fresh config valid).Sound limit where
  digests_kind := rfl
  graph_kind := rfl
  digests := Timeline.sound_fresh ..
  graphExecutions := Timeline.sound_fresh ..
  sources := ⟨List.nodup_nil, rfl⟩

theorem not_marked_fresh (config : Config) (valid : config.Valid) (mark : Mark) :
    ¬ (fresh config valid).Marked mark := by
  cases mark with
  | sequence kind mark =>
      cases kind with
      | executions => exact Timeline.not_marked_fresh .executions config.executions valid.1 mark
      | graphExecutions =>
          exact Timeline.not_marked_fresh .graphExecutions config.graphExecutions valid.2 mark
  | record => simp [Marked, fresh, ExecutionTimeline.fresh]
  | frame => simp [Marked, fresh]
  | op => simp [Marked, fresh, OpStore.phase, OpStore.phase?]
  | alerts => simp [Marked, fresh, LoadState.isLoading]
  | alertsOfType => simp [Marked, fresh]
  | fileList => simp [Marked, fresh, LoadState.isLoading]
  | file => simp [Marked, fresh, SourceShelf.IsLoading]

theorem Sound.mono {limit more : SequenceKind → Nat} {scope : RunScope}
    (hsound : scope.Sound limit) (hle : ∀ kind, limit kind ≤ more kind) : scope.Sound more where
  digests_kind := hsound.digests_kind
  graph_kind := hsound.graph_kind
  digests := hsound.digests.mono (hle _)
  graphExecutions := hsound.graphExecutions.mono (hle _)
  sources := hsound.sources

/-- Being sound says nothing of the alerts. -/
theorem Sound.withAlerts {limit : SequenceKind → Nat} {scope : RunScope}
    (hsound : scope.Sound limit) (alerts : AlertBoard) : { scope with alerts }.Sound limit where
  digests_kind := hsound.digests_kind
  graph_kind := hsound.graph_kind
  digests := hsound.digests
  graphExecutions := hsound.graphExecutions
  sources := hsound.sources

/-- What an operation leaves: a scope that is sound, with marks that were kept or that
the queue backs. -/
structure Leaves (limit : SequenceKind → Nat) (run : RunId) (kept : Mark → Prop)
    (queue : List PendingFetch) (after : RunScope) : Prop where
  sound : after.Sound limit
  tracked : Tracked queue run kept after.Marked

section Leaves

variable {limit : SequenceKind → Nat} {run : RunId} {kept : Mark → Prop}
  {queue : List PendingFetch} {scope after : RunScope}

theorem leaves_self (hsound : scope.Sound limit) : Leaves limit run scope.Marked [] scope :=
  ⟨hsound, Tracked.refl [] run scope.Marked⟩

/-- One operation after another. -/
theorem Leaves.trans {middle : RunScope} {more : List PendingFetch}
    (hfirst : Leaves limit run kept queue middle)
    (hsecond : Leaves limit run middle.Marked more after) :
    Leaves limit run kept (queue ++ more) after :=
  ⟨hsecond.sound, hfirst.tracked.trans hsecond.tracked⟩

/-- An operation on the digests. -/
theorem leaves_withDigests (hsound : scope.Sound limit) {digests : Timeline ExecutionDigest}
    (hkind : digests.kind = .executions)
    (hrest : ∀ mark, scope.Marked mark → (∀ other, mark ≠ .sequence .executions other) →
      kept mark)
    (hdigests : digests.Sound (limit .executions) ∧
      digests.Follows queue run fun mark => kept (.sequence .executions mark)) :
    Leaves limit run kept queue (scope.withDigests digests) := by
  refine ⟨⟨hkind, hsound.graph_kind, hdigests.1, hsound.graphExecutions, hsound.sources⟩, ?_⟩
  intro mark hmark
  cases mark with
  | sequence kind mark =>
      cases kind with
      | executions => exact hkind ▸ hdigests.2 mark hmark
      | graphExecutions => exact Or.inl (hrest _ hmark (by simp))
  | _ => exact Or.inl (hrest _ hmark (by simp))

/-- An operation on the executions inside graphs. -/
theorem leaves_withGraphExecutions (hsound : scope.Sound limit)
    {graphExecutions : Timeline GraphExecution} (hkind : graphExecutions.kind = .graphExecutions)
    (hrest : ∀ mark, scope.Marked mark → (∀ other, mark ≠ .sequence .graphExecutions other) →
      kept mark)
    (hgraph : graphExecutions.Sound (limit .graphExecutions) ∧
      graphExecutions.Follows queue run fun mark => kept (.sequence .graphExecutions mark)) :
    Leaves limit run kept queue { scope with graphExecutions } := by
  refine ⟨⟨hsound.digests_kind, hkind, hsound.digests, hgraph.1, hsound.sources⟩, ?_⟩
  intro mark hmark
  cases mark with
  | sequence kind mark =>
      cases kind with
      | executions => exact Or.inl (hrest _ hmark (by simp))
      | graphExecutions => exact hkind ▸ hgraph.2 mark hmark
  | _ => exact Or.inl (hrest _ hmark (by simp))

/-- An operation on the records. -/
theorem leaves_withExecutions (hsound : scope.Sound limit) {executions : ExecutionTimeline}
    (hdigests : executions.digests = scope.executions.digests)
    (hrest : ∀ mark, scope.Marked mark → (∀ index, mark ≠ .record index) → kept mark)
    (hrecords : ∀ index ∈ executions.recordsInFlight,
      kept (.record index) ∨ Requested queue run (.record index)) :
    Leaves limit run kept queue { scope with executions } := by
  refine ⟨⟨?_, hsound.graph_kind, ?_, hsound.graphExecutions, hsound.sources⟩, ?_⟩
  · exact (congrArg Timeline.kind hdigests).trans hsound.digests_kind
  · exact hdigests ▸ hsound.digests
  · intro mark hmark
    -- of all marks only those of the records can have changed
    cases mark with
    | sequence kind mark =>
        cases kind with
        | executions =>
            change executions.digests.Marked mark at hmark
            rw [hdigests] at hmark
            exact Or.inl (hrest _ hmark (by simp))
        | graphExecutions => exact Or.inl (hrest _ hmark (by simp))
    | record index => exact hrecords index hmark
    | _ => exact Or.inl (hrest _ hmark (by simp))

/-- An operation on the frames. -/
theorem leaves_withFrames (hsound : scope.Sound limit) {frames : FrameTable}
    {framesInFlight : Std.ExtTreeSet FrameId}
    (hrest : ∀ mark, scope.Marked mark → (∀ id, mark ≠ .frame id) → kept mark)
    (hframes : ∀ id ∈ framesInFlight, kept (.frame id) ∨ Requested queue run (.frame id)) :
    Leaves limit run kept queue { scope with frames, framesInFlight } := by
  refine ⟨⟨hsound.digests_kind, hsound.graph_kind, hsound.digests, hsound.graphExecutions,
    hsound.sources⟩, ?_⟩
  intro mark hmark
  cases mark with
  | sequence kind mark => cases kind <;> exact Or.inl (hrest _ hmark (by simp))
  | frame id => exact hframes id hmark
  | _ => exact Or.inl (hrest _ hmark (by simp))

/-- An operation on the ops. -/
theorem leaves_withOps (hsound : scope.Sound limit) {ops : OpStore}
    (hrest : ∀ mark, scope.Marked mark → (∀ key, mark ≠ .op key) → kept mark)
    (hops : ∀ key, ops.phase key = .loading → kept (.op key) ∨ Requested queue run (.op key)) :
    Leaves limit run kept queue { scope with ops } := by
  refine ⟨⟨hsound.digests_kind, hsound.graph_kind, hsound.digests, hsound.graphExecutions,
    hsound.sources⟩, ?_⟩
  intro mark hmark
  cases mark with
  | sequence kind mark => cases kind <;> exact Or.inl (hrest _ hmark (by simp))
  | op key => exact hops key hmark
  | _ => exact Or.inl (hrest _ hmark (by simp))

/-- An operation on the alerts. -/
theorem leaves_withAlerts (hsound : scope.Sound limit) {alerts : AlertBoard}
    (hrest : ∀ mark, scope.Marked mark → mark ≠ .alerts →
      (∀ alertType, mark ≠ .alertsOfType alertType) → kept mark)
    (hload : alerts.load.isLoading = true → kept .alerts ∨ Requested queue run .alerts)
    (htypes : ∀ alertType ∈ alerts.inFlight,
      kept (.alertsOfType alertType) ∨ Requested queue run (.alertsOfType alertType)) :
    Leaves limit run kept queue { scope with alerts } := by
  refine ⟨hsound.withAlerts alerts, ?_⟩
  intro mark hmark
  cases mark with
  | sequence kind mark => cases kind <;> exact Or.inl (hrest _ hmark (by simp) (by simp))
  | alerts => exact hload hmark
  | alertsOfType alertType => exact htypes alertType hmark
  | _ => exact Or.inl (hrest _ hmark (by simp) (by simp))

/-- An operation on the source files. -/
theorem leaves_withSources (hsound : scope.Sound limit) {sources : SourceShelf}
    (hsources : sources.Sound)
    (hrest : ∀ mark, scope.Marked mark → mark ≠ .fileList → (∀ file, mark ≠ .file file) →
      kept mark)
    (hlist : sources.listLoad.isLoading = true → kept .fileList ∨ Requested queue run .fileList)
    (hfiles : ∀ file, sources.IsLoading file →
      kept (.file file) ∨ Requested queue run (.file file)) :
    Leaves limit run kept queue { scope with sources } := by
  refine ⟨⟨hsound.digests_kind, hsound.graph_kind, hsound.digests, hsound.graphExecutions,
    hsources⟩, ?_⟩
  intro mark hmark
  cases mark with
  | sequence kind mark => cases kind <;> exact Or.inl (hrest _ hmark (by simp) (by simp))
  | fileList => exact hlist hmark
  | file file => exact hfiles file hmark
  | _ => exact Or.inl (hrest _ hmark (by simp) (by simp))

/-! ## Operations of the user -/

theorem leaves_scroll (hsound : scope.Sound limit) (kind : SequenceKind) (step : ScrollStep) :
    Leaves limit run scope.Marked (Command.queueOf (scope.scroll run kind step).2)
      (scope.scroll run kind step).1 := by
  cases kind with
  | executions =>
      exact leaves_withDigests hsound ((Timeline.kind_scroll ..).trans hsound.digests_kind)
        (fun _ hmark _ => hmark) (Timeline.follows_scroll hsound.digests step)
  | graphExecutions =>
      exact leaves_withGraphExecutions hsound
        ((Timeline.kind_scroll ..).trans hsound.graph_kind) (fun _ hmark _ => hmark)
        (Timeline.follows_scroll hsound.graphExecutions step)

theorem leaves_refresh (hsound : scope.Sound limit) :
    Leaves limit run scope.Marked (scope.refresh run).2.queue (scope.refresh run).1 := by
  obtain ⟨hdigests, hdigestMarks⟩ := Timeline.follows_requestTotal hsound.digests run
  obtain ⟨hgraph, hgraphMarks⟩ := Timeline.follows_requestTotal hsound.graphExecutions run
  -- each of the four marks has its own fetch in the command
  have hqueue : (scope.refresh run).2.queue =
      (scope.executions.digests.requestTotal run).2.queue ++
        (scope.graphExecutions.requestTotal run).2.queue ++
        [.data run .numAlertsAndBreakdown, .data run .sourceFileList] := by
    rw [refresh, Command.queue_combine]
    rfl
  refine ⟨⟨hsound.digests_kind, hsound.graph_kind, hdigests, hgraph, hsound.sources.nodup,
    hsound.sources.aligned⟩, ?_⟩
  rw [hqueue]
  intro mark hmark
  cases mark with
  | sequence kind mark =>
      cases kind with
      | executions =>
          refine (hdigestMarks mark hmark).imp_right fun hrequested => ?_
          exact (hsound.digests_kind ▸ hrequested).mono (by simp)
      | graphExecutions =>
          refine (hgraphMarks mark hmark).imp_right fun hrequested => ?_
          exact (hsound.graph_kind ▸ hrequested).mono (by simp)
  | alerts => exact Or.inr ⟨.numAlertsAndBreakdown, by simp, .numAlertsAndBreakdown⟩
  | fileList => exact Or.inr ⟨.sourceFileList, by simp, .sourceFileList⟩
  | _ => exact Or.inl hmark

theorem leaves_focusOp (hsound : scope.Sound limit) (key : GraphOpKey) :
    Leaves limit run scope.Marked [] (scope.focusOp key) := by
  refine ⟨⟨hsound.digests_kind, hsound.graph_kind, hsound.digests, hsound.graphExecutions,
    hsound.sources⟩, ?_⟩
  intro mark hmark
  cases mark with
  | sequence kind mark => cases kind <;> exact Or.inl hmark
  | _ => exact Or.inl hmark

/-- A change of the focus of a sequence marks nothing. -/
theorem leaves_focusDigest (hsound : scope.Sound limit) (focus : Option Nat)
    (location : Option CodeLocation) :
    Leaves limit run scope.Marked []
      { scope.withDigests (scope.executions.digests.setFocus focus) with location } := by
  refine ⟨⟨hsound.digests_kind, hsound.graph_kind, hsound.digests.setFocus focus,
    hsound.graphExecutions, hsound.sources⟩, ?_⟩
  intro mark hmark
  cases mark with
  | sequence kind mark => cases kind <;> cases mark <;> exact Or.inl hmark
  | _ => exact Or.inl hmark

theorem leaves_focusGraphExecution (hsound : scope.Sound limit) (focus : Option Nat) :
    Leaves limit run scope.Marked []
      { scope with graphExecutions := scope.graphExecutions.setFocus focus } := by
  refine leaves_withGraphExecutions hsound hsound.graph_kind (fun _ hmark _ => hmark)
    ⟨hsound.graphExecutions.setFocus focus, ?_⟩
  intro mark hmark
  cases mark <;> exact Or.inl hmark

theorem leaves_focusByOffset (hsound : scope.Sound limit) (kind : SequenceKind)
    (offset : Nat) : Leaves limit run scope.Marked [] (scope.focusByOffset kind offset) := by
  cases kind with
  | executions => exact leaves_focusDigest hsound _ _
  | graphExecutions =>
      have hfocused : Leaves limit run scope.Marked [] _ :=
        leaves_focusGraphExecution hsound
          (some (scope.graphExecutions.view.window.indexAt offset))
      rw [focusByOffset]
      cases scope.graphExecutions.items[scope.graphExecutions.view.window.indexAt offset]? with
      | none => exact hfocused
      | some execution => exact hfocused.trans (leaves_focusOp hfocused.sound _)

theorem marked_setFocusLine {line : StackFrame} {mark : Mark} :
    (scope.setFocusLine line).Marked mark ↔ scope.Marked mark := by
  cases mark with
  | sequence kind mark => cases kind <;> exact Iff.rfl
  | _ => exact Iff.rfl

theorem leaves_setFocusLine (hsound : scope.Sound limit) (line : StackFrame) :
    Leaves limit run scope.Marked [] (scope.setFocusLine line) :=
  ⟨⟨hsound.digests_kind, hsound.graph_kind, hsound.digests, hsound.graphExecutions,
    hsound.sources.nodup, hsound.sources.aligned⟩, fun _ hmark => Or.inl (marked_setFocusLine.mp hmark)⟩

theorem leaves_requestOp (hsound : scope.Sound limit) (key : GraphOpKey) :
    Leaves limit run scope.Marked (scope.requestOp run key).2.queue
      (scope.requestOp run key).1 := by
  rw [requestOp, OpStore.request]
  split_ifs with hheld
  · exact leaves_self hsound
  · refine leaves_withOps hsound (fun _ hmark _ => hmark) ?_
    intro other hloading
    rw [OpStore.phase_setPhase] at hloading
    split_ifs at hloading with hkey
    · subst hkey
      exact Or.inr ⟨.graphOpInfo key, List.mem_singleton_self _, .graphOpInfo key⟩
    · exact Or.inl hloading

theorem leaves_requestAlerts (hsound : scope.Sound limit) (alertType : AlertType) :
    Leaves limit run scope.Marked (scope.requestAlerts run alertType).2.queue
      (scope.requestAlerts run alertType).1 := by
  rw [requestAlerts, AlertBoard.requestType]
  dsimp only
  split_ifs with hheld
  · exact leaves_self hsound
  · refine leaves_withAlerts hsound (fun _ hmark _ _ => hmark) ?_ ?_
    · intro _
      exact Or.inr ⟨_, List.mem_singleton_self _, .alerts alertType _⟩
    · intro other hmem
      rcases Std.ExtTreeSet.mem_insert.mp hmem with heq | hmem
      · rw [Std.LawfulEqOrd.compare_eq_iff_eq] at heq
        subst heq
        exact Or.inr ⟨_, List.mem_singleton_self _, .alertsOfType alertType _⟩
      · exact Or.inl hmem

theorem leaves_requestFocusedAlerts (hsound : scope.Sound limit) :
    Leaves limit run scope.Marked (scope.requestFocusedAlerts run).2.queue
      (scope.requestFocusedAlerts run).1 := by
  rw [requestFocusedAlerts]
  cases scope.alerts.focusType with
  | none => exact leaves_self hsound
  | some alertType => exact leaves_requestAlerts hsound alertType

/-- A change of the highlighted kind marks nothing. -/
theorem leaves_toggled (hsound : scope.Sound limit) (run : RunId) (alertType : AlertType) :
    Leaves limit run scope.Marked []
      { scope with alerts := scope.alerts.toggleFocus alertType } :=
  leaves_withAlerts hsound (fun _ hmark _ _ => hmark) Or.inl fun _ => Or.inl

theorem leaves_toggleAlerts (hsound : scope.Sound limit) (alertType : AlertType) :
    Leaves limit run scope.Marked (Command.queueOf (scope.toggleAlerts run alertType).2)
      (scope.toggleAlerts run alertType).1 := by
  have htoggled := leaves_toggled hsound run alertType
  refine toggleAlerts_induct (motive := fun after queue =>
    Leaves limit run scope.Marked queue after) alertType htoggled ?_ ?_
  · intro index
    exact htoggled.trans (leaves_scroll htoggled.sound .executions (.recenter index))
  · intro moved queue hmoved
    exact hmoved.trans (leaves_requestAlerts hmoved.sound alertType)

theorem leaves_requestFile (hsound : scope.Sound limit) (file : SourceFile) :
    Leaves limit run scope.Marked (Command.queueOf (scope.requestFile run file).2)
      (scope.requestFile run file).1 := by
  rcases SourceShelf.requestFile_spec scope.sources file with ⟨error, hrequest⟩ | hrequest |
    ⟨marked, hmodify, hrequest⟩
  · rw [requestFile, hrequest]
    exact leaves_self hsound
  · rw [requestFile, hrequest]
    exact leaves_self hsound
  · rw [requestFile, hrequest]
    refine leaves_withSources hsound (hsound.sources.modifyContent hmodify)
      (fun _ hmark _ _ => hmark) ?_ ?_
    · intro hloading
      rw [(SourceShelf.files_modifyContent hmodify).2] at hloading
      exact Or.inl hloading
    intro other hloading
    -- the file is marked when it is asked for, and no other is
    rcases SourceShelf.isLoading_modifyContent hsound.sources.nodup hmodify hloading with
      ⟨hbefore, _⟩ | ⟨rfl, _⟩
    · exact Or.inl hbefore
    · exact Or.inr ⟨.sourceFile file, List.mem_singleton_self _, .sourceFile file⟩

/-- Every operation of the user marks only what it asks for. -/
theorem leaves_operate (hsound : scope.Sound limit) (operation : Operation) :
    Leaves limit run scope.Marked (Command.queueOf (scope.operate run operation).2)
      (scope.operate run operation).1 := by
  cases operation with
  | refresh => exact leaves_refresh hsound
  | scroll kind step => exact leaves_scroll hsound kind step
  | focusByOffset kind offset => exact leaves_focusByOffset hsound kind offset
  | toggleAlerts alertType => exact leaves_toggleAlerts hsound alertType
  | focusOp key => exact leaves_focusOp hsound key
  | requestOp key => exact leaves_requestOp hsound key
  | requestFile file => exact leaves_requestFile hsound file

/-! ## Settling -/

theorem leaves_requestRecord (hsound : scope.Sound limit) (index : Nat) :
    Leaves limit run scope.Marked (scope.executions.requestRecord run index).2.queue
      { scope with executions := (scope.executions.requestRecord run index).1 } := by
  rw [ExecutionTimeline.requestRecord]
  split_ifs with hheld
  · exact leaves_self hsound
  · refine leaves_withExecutions hsound rfl (fun _ hmark _ => hmark) ?_
    intro other hmem
    rcases Std.ExtTreeSet.mem_insert.mp hmem with heq | hmem
    · rw [Std.LawfulEqOrd.compare_eq_iff_eq] at heq
      subst heq
      exact Or.inr ⟨_, List.mem_singleton_self _,
        .executionData ⟨Nat.le_refl _, Nat.lt_succ_self _⟩⟩
    · exact Or.inl hmem

theorem leaves_requestOrigin (hsound : scope.Sound limit) :
    Leaves limit run scope.Marked (scope.requestOrigin run).2.queue
      (scope.requestOrigin run).1 := by
  rw [requestOrigin]
  cases scope.focusOrigin with
  | none => exact leaves_self hsound
  | some origin =>
      cases origin with
      | execution index => exact leaves_requestRecord hsound index
      | graphOpCreation key => exact leaves_requestOp hsound key

theorem leaves_requestMissingFrames (hsound : scope.Sound limit) :
    Leaves limit run scope.Marked (scope.requestMissingFrames run).2.queue
      (scope.requestMissingFrames run).1 := by
  rw [requestMissingFrames]
  split
  · exact leaves_self hsound
  · refine leaves_withFrames hsound (fun _ hmark _ => hmark) ?_
    intro id hmem
    rcases Std.ExtTreeSet.mem_insertMany_list.mp hmem with hbefore | hmissing
    · exact Or.inl hbefore
    · exact Or.inr ⟨_, List.mem_singleton_self _, .stackFrames (by simpa using hmissing)⟩

theorem leaves_followLastFrame (hsound : scope.Sound limit) :
    Leaves limit run scope.Marked [] scope.followLastFrame := by
  rw [followLastFrame]
  split
  · rename_i frames line _ _
    cases StackTrace.follow frames line with
    | none => exact leaves_self hsound
    | some target => exact leaves_setFocusLine hsound target
  · exact leaves_self hsound

theorem leaves_followed (hsound : scope.Sound limit) (sticky : Bool) :
    Leaves limit run scope.Marked [] (if sticky then scope.followLastFrame else scope) := by
  split_ifs
  · exact leaves_followLastFrame hsound
  · exact leaves_self hsound

theorem leaves_requestFocusedFile (hsound : scope.Sound limit) :
    Leaves limit run scope.Marked (scope.requestFocusedFile run).2.queue
      (scope.requestFocusedFile run).1 := by
  rw [requestFocusedFile]
  cases scope.sources.focusLine with
  | none => exact leaves_self hsound
  | some line =>
      have hrequested : Leaves limit run scope.Marked _ (scope.requestFile run line.file).1 :=
        leaves_requestFile hsound line.file
      dsimp only
      rcases hfile : scope.requestFile run line.file with ⟨requested, error | command⟩
      · exact leaves_self hsound
      · rw [hfile] at hrequested
        exact hrequested

theorem leaves_settle (hsound : scope.Sound limit) (sticky : Bool) :
    Leaves limit run scope.Marked (scope.settle run sticky).2.queue
      (scope.settle run sticky).1 := by
  have horigin : Leaves limit run scope.Marked _ (scope.requestOrigin run).1 :=
    leaves_requestOrigin hsound
  have hframes := horigin.trans (leaves_requestMissingFrames horigin.sound)
  have hfollowed := hframes.trans (leaves_followed hframes.sound sticky)
  have hfile := hfollowed.trans (leaves_requestFocusedFile hfollowed.sound)
  rw [settle, Command.queue_combine]
  simpa using hfile

end Leaves

end RunScope

end TraceViewer
