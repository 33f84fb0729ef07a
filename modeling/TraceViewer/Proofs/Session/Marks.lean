import TraceViewer.Proofs.Session.TimelineSteps

/-!
# Marks and the requests behind them

A session marks what it is waiting for, so that nothing is asked for twice.  A mark
that outlives its request blocks its datum for good.  This file names the marks
(`Mark`) and says which requests a mark may wait for (`Request.Backs`).

Every operation is described in the same way: a mark found afterwards was there before,
or the operation asks for something that backs it (`Tracked`).  The operations of a
timeline are settled here.  An answer for a range takes the marks of the pages whose
requested end it reaches, however it turns out (`marked_merged`,
`follows_onPageFailed`).
-/

namespace TraceViewer

/-! ## Marks -/

/-- Something that a timeline is waiting for. -/
inductive SequenceMark where
  /-- The total is loading. -/
  | total
  /-- The page that starts at `start` is being fetched, up to `requestedEnd`. -/
  | page (start requestedEnd : Nat)
deriving Repr, DecidableEq

/-- Something that the scope of a run is waiting for. -/
inductive Mark where
  | sequence (kind : SequenceKind) (mark : SequenceMark)
  /-- The record of a top-level execution is being fetched. -/
  | record (index : Nat)
  | frame (id : FrameId)
  | op (key : GraphOpKey)
  /-- The alerts, or how many there are, are loading. -/
  | alerts
  | alertsOfType (alertType : AlertType)
  | fileList
  | file (file : SourceFile)
deriving Repr, DecidableEq

/-- Whether the answer to a request takes a mark, whether it succeeds or fails. -/
inductive Request.Backs : Request → Mark → Prop where
  | numExecutions : Backs .numExecutions (.sequence .executions .total)
  | numGraphExecutions : Backs .numGraphExecutions (.sequence .graphExecutions .total)
  | page {kind : SequenceKind} {range : Interval} {start requestedEnd : Nat}
      (start_le : range.start ≤ start) (le_stop : requestedEnd ≤ range.stop) :
      Backs (.page kind range) (.sequence kind (.page start requestedEnd))
  | executionData {range : Interval} {index : Nat} (mem : index ∈ range) :
      Backs (.executionData range) (.record index)
  | stackFrames {ids : List FrameId} {id : FrameId} (mem : id ∈ ids) :
      Backs (.stackFrames ids) (.frame id)
  | graphOpInfo (key : GraphOpKey) : Backs (.graphOpInfo key) (.op key)
  | sourceFileList : Backs .sourceFileList .fileList
  | sourceFile (file : SourceFile) : Backs (.sourceFile file) (.file file)
  | numAlertsAndBreakdown : Backs .numAlertsAndBreakdown .alerts
  | alerts (alertType : AlertType) (range : Interval) :
      Backs (.alertsOfType alertType range) .alerts
  | alertsOfType (alertType : AlertType) (range : Interval) :
      Backs (.alertsOfType alertType range) (.alertsOfType alertType)

/-- A queue holds a request within a run that backs a mark. -/
def Requested (queue : List PendingFetch) (run : RunId) (mark : Mark) : Prop :=
  ∃ request, PendingFetch.data run request ∈ queue ∧ request.Backs mark

theorem Requested.mono {queue more : List PendingFetch} {run : RunId} {mark : Mark}
    (hrequested : Requested queue run mark) (hsub : queue ⊆ more) : Requested more run mark := by
  obtain ⟨request, hmem, hbacks⟩ := hrequested
  exact ⟨request, hsub hmem, hbacks⟩

/-- Every mark found after a step is one that was kept, or is asked for by the step. -/
def Tracked (queue : List PendingFetch) (run : RunId) (kept after : Mark → Prop) : Prop :=
  ∀ mark, after mark → kept mark ∨ Requested queue run mark

theorem Tracked.refl (queue : List PendingFetch) (run : RunId) (marks : Mark → Prop) :
    Tracked queue run marks marks :=
  fun _ hmark => Or.inl hmark

/-- One step after another. -/
theorem Tracked.trans {first second : List PendingFetch} {run : RunId}
    {before middle after : Mark → Prop} (hfirst : Tracked first run before middle)
    (hsecond : Tracked second run middle after) :
    Tracked (first ++ second) run before after := by
  intro mark hmark
  rcases hsecond mark hmark with hmiddle | hrequested
  · rcases hfirst mark hmiddle with hbefore | hrequested
    · exact Or.inl hbefore
    · exact Or.inr (hrequested.mono (List.subset_append_left first second))
  · exact Or.inr (hrequested.mono (List.subset_append_right first second))

/-! ## The marks of a timeline -/

namespace Timeline

variable {α : Type} {timeline : Timeline α} {limit : Nat} {run : RunId}

/-- Whether a timeline is waiting for something. -/
def Marked (timeline : Timeline α) : SequenceMark → Prop
  | .total => timeline.totalLoad.isLoading = true
  | .page start requestedEnd => ∃ page : Nat,
      timeline.view.sequence.inFlight[page]? = some requestedEnd ∧
        start = page * timeline.view.sequence.pageSize

theorem not_marked_fresh (kind : SequenceKind) (geometry : Geometry) (valid : geometry.Valid)
    (mark : SequenceMark) : ¬ (fresh kind geometry valid : Timeline α).Marked mark := by
  cases mark <;>
    simp [Marked, fresh, LoadState.isLoading, PagedView.fresh, PagedSequence.ofPageSize]

/-- A page is marked up to an end that is past its start and not past the sequence. -/
theorem lt_of_marked (hsound : timeline.Sound limit) {start requestedEnd : Nat}
    (hmark : timeline.Marked (.page start requestedEnd)) :
    start < requestedEnd ∧ requestedEnd ≤ limit := by
  obtain ⟨page, hmarked, rfl⟩ := hmark
  have hlt := hsound.accounted.lt_mark hmarked
  have hle := hsound.accounted.mark_le hmarked
  have hnumItems : timeline.view.sequence.numItems ≤ limit := hsound.numItems_le
  omega

/-- As `Tracked`, for the marks of one timeline. -/
def Follows (queue : List PendingFetch) (run : RunId) (kept : SequenceMark → Prop)
    (after : Timeline α) : Prop :=
  ∀ mark, after.Marked mark → kept mark ∨ Requested queue run (.sequence after.kind mark)

theorem kind_asking (timeline : Timeline α) (run : RunId) (view : PagedView α)
    (demand : PageDemand) : (timeline.asking run view demand).1.kind = timeline.kind := by
  rw [asking_fst]

/-- A timeline that asks has marks only for what it asks for, besides the old ones. -/
theorem follows_asking {view : PagedView α} {demand : PageDemand}
    (hasks : timeline.view.Asks view demand) :
    Follows (timeline.asking run view demand).2.queue run timeline.Marked
      (timeline.asking run view demand).1 := by
  intro mark hmark
  rw [kind_asking]
  rw [asking_fst] at hmark
  cases mark with
  | total => exact Or.inl hmark
  | page start requestedEnd =>
      obtain ⟨page, hmarked, hstart⟩ := hmark
      change view.sequence.inFlight[page]? = _ at hmarked
      change start = page * view.sequence.pageSize at hstart
      rw [hasks.pageSize_eq] at hstart
      rw [hasks.getElem?_inFlight] at hmarked
      split_ifs at hmarked with hpage
      · -- a new mark: the range in which the page starts reaches the end of its span
        refine Or.inr ?_
        have hpos := timeline.view.sequence.pageSize_pos
        obtain ⟨range, hrange, hmem⟩ := (hasks.mem_ranges start).mpr (by
          rw [hstart, Page.ofIndex_mul hpos]
          exact ⟨hpage, hasks.lacks.lt_numItems page hpage⟩)
        have hstop := (hasks.fetchRange range hrange).stop_span_le (hstart ▸ hmem)
        rw [Option.some.injEq] at hmarked
        refine ⟨.page timeline.kind range, ?_, .page (Interval.mem_def.mp hmem).1 ?_⟩
        · exact (mem_queue_asking hasks run _).mpr ⟨range, hrange, rfl⟩
        · rw [← hmarked]
          exact hstop
      · -- an old mark, and the pages are as long as before
        exact Or.inl ⟨page, hmarked, hstart⟩

theorem kind_scroll (timeline : Timeline α) (run : RunId) (step : ScrollStep) :
    (timeline.scroll run step).1.kind = timeline.kind := by
  rw [scroll]
  rcases moveView timeline.view step with ⟨view, error | demand⟩
  · rfl
  · exact kind_asking timeline run view demand

theorem follows_scroll (hsound : timeline.Sound limit) (step : ScrollStep) :
    (timeline.scroll run step).1.Sound limit ∧
      Follows (Command.queueOf (timeline.scroll run step).2) run timeline.Marked
        (timeline.scroll run step).1 := by
  rcases scroll_spec hsound run step with ⟨error, hscroll⟩ | hscroll |
    ⟨view, demand, hresolved, htotal, hscroll⟩
  · rw [hscroll]
    exact ⟨hsound, fun _ => Or.inl⟩
  · rw [hscroll]
    exact ⟨hsound, fun _ => Or.inl⟩
  · rw [hscroll]
    exact ⟨sound_asking hsound hresolved.1
      (Nat.le_trans (Nat.le_of_eq htotal) hsound.numItems_le) run, follows_asking hresolved.1⟩

theorem follows_requestTotal (hsound : timeline.Sound limit) (run : RunId) :
    (timeline.requestTotal run).1.Sound limit ∧
      Follows (timeline.requestTotal run).2.queue run timeline.Marked
        (timeline.requestTotal run).1 := by
  refine ⟨hsound.withTotalLoad _, ?_⟩
  intro mark hmark
  cases mark with
  | total =>
      -- the total is marked now, and it is asked for
      refine Or.inr ⟨totalRequest timeline.kind, List.mem_singleton_self _, ?_⟩
      change (totalRequest timeline.kind).Backs (.sequence timeline.kind .total)
      cases timeline.kind with
      | executions => exact .numExecutions
      | graphExecutions => exact .numGraphExecutions
  | page start requestedEnd => exact Or.inl hmark

theorem kind_onTotal (timeline : Timeline α) (run : RunId) (total now : Nat) :
    (timeline.onTotal run total now).1.kind = timeline.kind := by
  rw [onTotal]
  rcases timeline.view.setNumItems total with ⟨view, error | demand⟩
  · rfl
  · exact kind_asking { timeline with totalLoad := timeline.totalLoad.finish now } run view demand

/-- A total takes the mark of the total. -/
theorem follows_onTotal (hsound : timeline.Sound limit) {total : Nat} (hlimit : total ≤ limit)
    (now : Nat) :
    (timeline.onTotal run total now).1.Sound limit ∧
      Follows (Command.queueOf ((timeline.onTotal run total now).2.map Prod.fst)) run
        (fun mark => timeline.Marked mark ∧ mark ≠ .total)
        (timeline.onTotal run total now).1 := by
  by_cases hlt : total < timeline.numItems
  · -- a total that is refused takes the mark as well
    obtain ⟨error, htotal⟩ := onTotal_of_lt hlt run now
    rw [htotal]
    refine ⟨hsound.withTotalLoad _, ?_⟩
    intro mark hmark
    cases mark with
    | total => exact absurd hmark (by simp [Marked, LoadState.fail, LoadState.isLoading])
    | page start requestedEnd => exact Or.inl ⟨hmark, by simp⟩
  · obtain ⟨view, demand, hresolved, hnumItems, _, htotal⟩ :=
      onTotal_of_le hsound (Nat.le_of_not_lt hlt) run now
    -- the total takes its own mark before the window is resolved
    let finished := { timeline with totalLoad := timeline.totalLoad.finish now }
    have hfinished : finished.Sound limit := hsound.withTotalLoad _
    have hasks : finished.view.Asks view demand := hresolved.1
    rw [htotal]
    refine ⟨sound_asking hfinished hasks (hnumItems ▸ hlimit) run, ?_⟩
    intro mark hmark
    rcases follows_asking hasks mark hmark with hkept | hrequested
    · cases mark with
      | total =>
          exact absurd hkept (by simp [finished, Marked, LoadState.finish, LoadState.isLoading])
      | page start requestedEnd => exact Or.inl ⟨hkept, by simp⟩
    · exact Or.inr hrequested

/-- Whether an answer for a range reaches the page of a mark and its requested end. -/
def SpansPage (range : Interval) : SequenceMark → Prop
  | .total => False
  | .page start requestedEnd => start ∈ range ∧ requestedEnd ≤ range.stop

/-- Taking the marks that an answer for a range releases. -/
theorem marked_release {sequence : PagedSequence α} {range : Interval}
    {page requestedEnd : Nat}
    (hmark : (sequence.release range).1.inFlight[page]? = some requestedEnd) :
    sequence.inFlight[page]? = some requestedEnd ∧
      ¬ SpansPage range (.page (page * sequence.pageSize) requestedEnd) := by
  rw [PagedSequence.getElem?_inFlight_release, Option.filter_eq_some_iff] at hmark
  refine ⟨hmark.1, ?_⟩
  rintro ⟨hstart, hstop⟩
  -- a release takes exactly the marks that its range spans
  have hreleases : sequence.releases range page requestedEnd = true := by
    rw [PagedSequence.releases, Bool.and_eq_true, Bool.or_eq_true, decide_eq_true_eq,
      decide_eq_true_eq]
    exact ⟨(Page.mem_startingIn sequence.pageSize_pos).mpr (Or.inl hstart), Or.inl hstop⟩
  rw [hreleases] at hmark
  cases hmark.2

/-- What an answer for a range leaves of the marks: of those for pages, the ones that
it does not reach. -/
theorem marked_merged {batch : Batch α} {now : Nat}
    {mark : SequenceMark} (hmark : (timeline.merged batch now).Marked mark) :
    timeline.Marked mark ∧ ¬ SpansPage batch.range mark := by
  rw [merged_eq] at hmark
  cases mark with
  | total => exact ⟨hmark, id⟩
  | page start requestedEnd =>
      obtain ⟨page, hmarked, hstart⟩ := hmark
      change (timeline.view.sequence.merge batch).1.inFlight[page]? = _ at hmarked
      change start = page * (timeline.view.sequence.merge batch).1.pageSize at hstart
      rw [PagedSequence.pageSize_merge] at hstart
      -- a refused batch releases its pages as well
      by_cases haccepts : timeline.view.sequence.Accepts batch
      · obtain ⟨report, hmerge, _⟩ := PagedSequence.merge_of_accepts haccepts
        rw [hmerge] at hmarked
        obtain ⟨hkept, hshort⟩ := marked_release hmarked
        rw [PagedSequence.inFlight_stored] at hkept
        rw [PagedSequence.pageSize_stored, ← hstart] at hshort
        exact ⟨⟨page, hkept, hstart⟩, hshort⟩
      · obtain ⟨error, hmerge⟩ := PagedSequence.merge_of_not_accepts haccepts
        rw [hmerge] at hmarked
        obtain ⟨hkept, hshort⟩ := marked_release hmarked
        exact ⟨⟨page, hkept, hstart⟩, hstart ▸ hshort⟩

theorem kind_onPage (hsound : timeline.Sound limit) {batch : Batch α}
    (hlimit : batch.total ≤ limit) (run : RunId) (now : Nat) :
    (timeline.onPage run batch now).1.kind = timeline.kind := by
  have hmerged : (timeline.merged batch now).kind = timeline.kind := by
    rw [merged_eq]
  by_cases haccepts : timeline.view.sequence.Accepts batch
  · by_cases hlt : timeline.numItems < batch.total
    · obtain ⟨view, demand, _, _, _, hpage⟩ :=
        onPage_of_accepts_lt hsound haccepts hlt hlimit run now
      rw [hpage]
      exact (kind_asking ..).trans hmerged
    · rw [onPage_of_accepts_le haccepts (Nat.le_of_not_lt hlt)]
      exact hmerged
  · obtain ⟨error, hpage⟩ := onPage_of_not_accepts haccepts run now
    rw [hpage]
    exact hmerged

/-- A batch takes the marks of the pages whose requested end it reaches. -/
theorem follows_onPage (hsound : timeline.Sound limit) {batch : Batch α}
    (hlimit : batch.total ≤ limit) (now : Nat) :
    (timeline.onPage run batch now).1.Sound limit ∧
      Follows (Command.queueOf ((timeline.onPage run batch now).2.map Prod.fst)) run
        (fun mark => timeline.Marked mark ∧ ¬ SpansPage batch.range mark)
        (timeline.onPage run batch now).1 := by
  have hmerged := sound_merged hsound hlimit now
  by_cases haccepts : timeline.view.sequence.Accepts batch
  · by_cases hlt : timeline.numItems < batch.total
    · obtain ⟨view, demand, hresolved, hnumItems, _, hpage⟩ :=
        onPage_of_accepts_lt hsound haccepts hlt hlimit run now
      rw [hpage]
      refine ⟨sound_asking hmerged hresolved.1 (hnumItems ▸ hlimit) run, ?_⟩
      intro mark hmark
      exact (follows_asking hresolved.1 mark hmark).imp_left marked_merged
    · rw [onPage_of_accepts_le haccepts (Nat.le_of_not_lt hlt)]
      exact ⟨hmerged, fun mark hmark => Or.inl (marked_merged hmark)⟩
  · obtain ⟨error, hpage⟩ := onPage_of_not_accepts haccepts run now
    rw [hpage]
    exact ⟨hmerged, fun mark hmark => Or.inl (marked_merged hmark)⟩

theorem follows_onPageFailed (hsound : timeline.Sound limit) (range : Interval) :
    (timeline.onPageFailed range).Sound limit ∧
      ∀ mark, (timeline.onPageFailed range).Marked mark →
        timeline.Marked mark ∧ ¬ SpansPage range mark := by
  refine ⟨⟨PagedSequence.accounted_release hsound.accounted range, hsound.fits,
    hsound.numItems_le, ?_⟩, ?_⟩
  · simp [onPageFailed, LoadState.fail, LoadState.isLoading]
  · intro mark hmark
    cases mark with
    | total => exact ⟨hmark, id⟩
    | page start requestedEnd =>
        obtain ⟨page, hmarked, hstart⟩ := hmark
        obtain ⟨hkept, hshort⟩ := marked_release hmarked
        exact ⟨⟨page, hkept, hstart⟩, hstart ▸ hshort⟩

end Timeline

end TraceViewer
