import TraceViewer.Proofs.Paging.WindowRequests
import TraceViewer.Proofs.Simulation.Queue

/-!
# The steps of a timeline

What each operation of a timeline can do, said once.  A timeline is *sound* when its
accounts agree, its window fits a page, it has seen no more than `limit` items, and its
pages are loading only while a page is being fetched (`Timeline.Sound`).  On a sound
timeline no operation fails for want of a window it could ask for:

* a movement of the window is refused or has no effect, or it asks (`scroll_spec`);
* a total is refused when it is too small, and otherwise the window is asked for
  (`onTotal_of_lt`, `onTotal_of_le`);
* a batch is taken in, and the window is asked for if the total grew
  (`onPage_of_not_accepts`, `onPage_of_accepts_le`, `onPage_of_accepts_lt`).

What asking does to the view is said by `PagedView.Resolved`.
-/

namespace TraceViewer.Timeline

variable {α : Type} {timeline : Timeline α} {limit : Nat}

/-- What holds of a timeline between events, when its source has `limit` items. -/
structure Sound (limit : Nat) (timeline : Timeline α) : Prop where
  accounted : timeline.view.sequence.Accounted
  fits : timeline.view.Fits
  numItems_le : timeline.numItems ≤ limit
  /-- The pages count as loading only while one of them is. -/
  loading : timeline.pagesLoad.isLoading = true → timeline.isIdle = false

theorem sound_fresh (kind : SequenceKind) (geometry : Geometry) (valid : geometry.Valid)
    (limit : Nat) : (fresh kind geometry valid : Timeline α).Sound limit where
  accounted := PagedSequence.accounted_ofPageSize geometry.pageSize valid.1
  fits := valid.2
  numItems_le := Nat.zero_le limit
  loading := by simp [fresh, LoadState.isLoading]

theorem Sound.mono {more : Nat} (hsound : timeline.Sound limit) (hle : limit ≤ more) :
    timeline.Sound more where
  accounted := hsound.accounted
  fits := hsound.fits
  numItems_le := Nat.le_trans hsound.numItems_le hle
  loading := hsound.loading

theorem Sound.withTotalLoad (hsound : timeline.Sound limit) (totalLoad : LoadState) :
    { timeline with totalLoad }.Sound limit where
  accounted := hsound.accounted
  fits := hsound.fits
  numItems_le := hsound.numItems_le
  loading := hsound.loading

theorem Sound.setFocus (hsound : timeline.Sound limit) (focus : Option Nat) :
    (timeline.setFocus focus).Sound limit where
  accounted := hsound.accounted
  fits := hsound.fits
  numItems_le := hsound.numItems_le
  loading := hsound.loading

theorem isIdle_eq_false_iff :
    timeline.isIdle = false ↔
      ∃ page requestedEnd : Nat, timeline.view.sequence.inFlight[page]? = some requestedEnd := by
  rw [isIdle, PagedSequence.isIdle, Std.ExtTreeMap.isEmpty_eq_false_iff,
    Std.ExtTreeMap.eq_empty_iff_forall_not_mem]
  simp only [not_forall, not_not, Std.ExtTreeMap.mem_iff_isSome_getElem?, Option.isSome_iff_exists]

/-- Nothing is different but the focus and how far loading has come. -/
structure Still (before after : Timeline α) : Prop where
  kind_eq : after.kind = before.kind
  sequence_eq : after.view.sequence = before.view.sequence
  visibleRange_eq : after.view.visibleRange = before.view.visibleRange

theorem still_self (timeline : Timeline α) : timeline.Still timeline := ⟨rfl, rfl, rfl⟩

theorem Still.trans {before middle after : Timeline α} (hfirst : before.Still middle)
    (hsecond : middle.Still after) : before.Still after :=
  ⟨hsecond.kind_eq.trans hfirst.kind_eq, hsecond.sequence_eq.trans hfirst.sequence_eq,
    hsecond.visibleRange_eq.trans hfirst.visibleRange_eq⟩

/-! ## Asking -/

/-- What an operation leaves that asks: the view after asking, and the commands that
its demand is turned into. -/
def asking (timeline : Timeline α) (run : RunId) (view : PagedView α) (demand : PageDemand) :
    Timeline α × Command :=
  { timeline with view }.issue run demand

theorem asking_fst (timeline : Timeline α) (run : RunId) (view : PagedView α)
    (demand : PageDemand) :
    (timeline.asking run view demand).1 =
      { timeline with
        view
        pagesLoad := if demand.isEmpty then timeline.pagesLoad else timeline.pagesLoad.start } := by
  rw [asking, issue]
  split_ifs <;> rfl

theorem items_asking {view : PagedView α} {demand : PageDemand}
    (hasks : timeline.view.Asks view demand) (run : RunId) :
    (timeline.asking run view demand).1.items = timeline.items := by
  rw [asking_fst]
  exact hasks.items_eq

theorem numItems_asking (timeline : Timeline α) (run : RunId) (view : PagedView α)
    (demand : PageDemand) : (timeline.asking run view demand).1.numItems = view.numItems := by
  rw [asking_fst]
  rfl

/-- A demand is queued as one fetch for each of its ranges. -/
theorem mem_queue_asking {view : PagedView α} {demand : PageDemand}
    (hasks : timeline.view.Asks view demand) (run : RunId) (fetch : PendingFetch) :
    fetch ∈ (timeline.asking run view demand).2.queue ↔
      ∃ range ∈ demand.ranges, fetch = .data run (.page timeline.kind range) := by
  rw [asking, issue]
  split_ifs with hempty
  · have hpages : demand.pages = [] := List.isEmpty_iff.mp hempty
    simp [hasks.lacks.ranges_eq, hpages]
  · simp only [Command.queue_combine, List.mem_flatMap, List.mem_map]
    constructor
    · rintro ⟨command, ⟨range, hrange, rfl⟩, hmem⟩
      exact ⟨range, hrange, List.mem_singleton.mp hmem⟩
    · rintro ⟨range, hrange, rfl⟩
      exact ⟨_, ⟨range, hrange, rfl⟩, List.mem_singleton_self _⟩

/-- A timeline whose view asks stays sound. -/
theorem sound_asking (hsound : timeline.Sound limit) {view : PagedView α} {demand : PageDemand}
    (hasks : timeline.view.Asks view demand) (hlimit : view.numItems ≤ limit) (run : RunId) :
    (timeline.asking run view demand).1.Sound limit := by
  rw [asking_fst]
  refine ⟨hasks.accounted hsound.accounted, hasks.fits hsound.fits, hlimit, ?_⟩
  intro hloading
  rw [isIdle_eq_false_iff]
  change ∃ page requestedEnd : Nat, view.sequence.inFlight[page]? = some requestedEnd
  -- a page is being fetched: one from before, or one of the demand
  by_cases hempty : demand.isEmpty = true
  · have hbusy := hsound.loading (by simpa [hempty] using hloading)
    obtain ⟨page, requestedEnd, hmark⟩ := isIdle_eq_false_iff.mp hbusy
    refine ⟨page, requestedEnd, ?_⟩
    -- an empty demand changes no mark
    rw [hasks.getElem?_inFlight, List.isEmpty_iff.mp hempty]
    exact hmark
  · obtain ⟨page, hpage⟩ := List.exists_mem_of_ne_nil demand.pages fun hnil =>
      hempty (List.isEmpty_iff.mpr hnil)
    exact ⟨page, _, by rw [hasks.getElem?_inFlight, if_pos hpage]⟩

/-! ## Movements -/

theorem scroll_spec (hsound : timeline.Sound limit) (run : RunId) (step : ScrollStep) :
    (∃ error, timeline.scroll run step = (timeline, .error error)) ∨
      timeline.scroll run step = (timeline, .ok .none) ∨
      ∃ view demand, timeline.view.Resolved view demand ∧ view.numItems = timeline.numItems ∧
        timeline.scroll run step =
          ((timeline.asking run view demand).1, .ok (timeline.asking run view demand).2) := by
  rcases moveView_spec hsound.accounted hsound.fits step with
    ⟨error, hmoved⟩ | hmoved | ⟨view, demand, hmoved, hresolved, htotal⟩
  · exact Or.inl ⟨error, by rw [scroll, hmoved]⟩
  · exact Or.inr (Or.inl (by rw [scroll, hmoved]; rfl))
  · exact Or.inr (Or.inr ⟨view, demand, hresolved, htotal, by rw [scroll, hmoved]; rfl⟩)

/-! ## Totals -/

theorem onTotal_of_lt {total : Nat} (hlt : total < timeline.numItems) (run : RunId) (now : Nat) :
    ∃ error, timeline.onTotal run total now =
      ({ timeline with totalLoad := timeline.totalLoad.fail }, .error error) := by
  rw [onTotal, PagedView.setNumItems_of_lt hlt]
  exact ⟨_, rfl⟩

theorem onTotal_of_le (hsound : timeline.Sound limit) {total : Nat}
    (hle : timeline.numItems ≤ total) (run : RunId) (now : Nat) :
    let finished := { timeline with totalLoad := timeline.totalLoad.finish now }
    ∃ view demand, timeline.view.Resolved view demand ∧ view.numItems = total ∧
      view.window = timeline.view.window ∧
      timeline.onTotal run total now =
        ((finished.asking run view demand).1,
          .ok ((finished.asking run view demand).2, decide (timeline.numItems < total))) := by
  obtain ⟨view, demand, hset, hresolved, htotal, hwindow⟩ :=
    PagedView.setNumItems_spec hsound.accounted hsound.fits hle
  refine ⟨view, demand, hresolved, htotal, hwindow, ?_⟩
  rw [onTotal, hset]
  rfl

/-! ## Batches -/

/-- The timeline after a batch was taken in or refused, before the window is asked for. -/
def merged (timeline : Timeline α) (batch : Batch α) (now : Nat) : Timeline α :=
  let taken := { timeline with view := (timeline.view.merge batch).1 }
  if taken.isIdle then
    { taken with
      pagesLoad := if timeline.view.sequence.Accepts batch then taken.pagesLoad.finish now
        else taken.pagesLoad.fail }
  else taken

theorem merged_eq (timeline : Timeline α) (batch : Batch α) (now : Nat) :
    timeline.merged batch now =
      { timeline with
        view := (timeline.view.merge batch).1
        pagesLoad := (timeline.merged batch now).pagesLoad } := by
  rw [merged]
  split_ifs <;> rfl

theorem numItems_merge_le (sequence : PagedSequence α) (batch : Batch α) :
    (sequence.merge batch).1.numItems ≤ max sequence.numItems batch.total := by
  by_cases haccepts : sequence.Accepts batch
  · obtain ⟨report, hmerge, _⟩ := PagedSequence.merge_of_accepts haccepts
    rw [hmerge]
    exact Nat.le_trans (Nat.le_of_eq (PagedSequence.numItems_stored ..)) (Nat.le_max_right _ _)
  · obtain ⟨error, hmerge⟩ := PagedSequence.merge_of_not_accepts haccepts
    rw [hmerge]
    exact Nat.le_max_left _ _

theorem sound_merged (hsound : timeline.Sound limit) {batch : Batch α}
    (hlimit : batch.total ≤ limit) (now : Nat) : (timeline.merged batch now).Sound limit := by
  have hnumItems := numItems_merge_le timeline.view.sequence batch
  have hbefore : timeline.view.sequence.numItems ≤ limit := hsound.numItems_le
  refine ⟨?_, ?_, ?_, ?_⟩
  · rw [merged_eq]
    exact PagedSequence.accounted_merge hsound.accounted batch
  · rw [merged_eq]
    change timeline.view.window.displayCount ≤ (timeline.view.sequence.merge batch).1.pageSize
    rw [PagedSequence.pageSize_merge]
    exact hsound.fits
  · rw [merged_eq]
    change (timeline.view.sequence.merge batch).1.numItems ≤ limit
    omega
  · rw [merged]
    split_ifs with hidle haccepts
    · simp [LoadState.finish, LoadState.isLoading]
    · simp [LoadState.fail, LoadState.isLoading]
    · intro _
      exact Bool.eq_false_iff.mpr hidle

theorem onPage_of_not_accepts {batch : Batch α}
    (hrefuses : ¬ timeline.view.sequence.Accepts batch) (run : RunId) (now : Nat) :
    ∃ error, timeline.onPage run batch now = (timeline.merged batch now, .error error) := by
  obtain ⟨error, hmerge⟩ := PagedSequence.merge_of_not_accepts hrefuses
  refine ⟨error, ?_⟩
  rw [onPage, merged, PagedView.merge, hmerge]
  dsimp only
  split_ifs <;> rfl

/-- A batch that brings no larger total is taken in, and nothing is asked for. -/
theorem onPage_of_accepts_le {batch : Batch α}
    (haccepts : timeline.view.sequence.Accepts batch) (hle : batch.total ≤ timeline.numItems)
    (run : RunId) (now : Nat) :
    timeline.onPage run batch now = (timeline.merged batch now, .ok (.none, false)) := by
  obtain ⟨report, hmerge, hgrew⟩ := PagedSequence.merge_of_accepts haccepts
  have hsame : report.totalGrew = false := by
    rw [hgrew, decide_eq_false_iff_not]
    exact Nat.not_lt.mpr hle
  rw [onPage, merged, PagedView.merge, hmerge]
  simp [hsame, haccepts]

/-- A batch that brings a larger total is taken in, and the window is asked for, which the
view may refuse. -/
theorem onPage_of_grown {batch : Batch α} (haccepts : timeline.view.sequence.Accepts batch)
    (hlt : timeline.numItems < batch.total) (run : RunId) (now : Nat) :
    timeline.onPage run batch now =
      match (timeline.merged batch now).view.resolveWindow with
      | (view, .error error) => ({ timeline.merged batch now with view }, .error error)
      | (view, .ok demand) =>
        (((timeline.merged batch now).asking run view demand).1,
          .ok (((timeline.merged batch now).asking run view demand).2, true)) := by
  obtain ⟨report, hmerge, hgrew⟩ := PagedSequence.merge_of_accepts haccepts
  have hgrown : report.totalGrew = true := by
    rw [hgrew, decide_eq_true_eq]
    exact hlt
  rw [onPage, merged, PagedView.merge, hmerge]
  simp only [hgrown, haccepts, if_true]
  rfl

/-- A batch leaves the merged timeline, or it brought a larger total and the window was
asked for. -/
theorem onPage_cases (timeline : Timeline α) (run : RunId) (batch : Batch α) (now : Nat) :
    (∃ result, timeline.onPage run batch now = (timeline.merged batch now, result)) ∨
    (∃ view error, (timeline.merged batch now).view.resolveWindow = (view, .error error) ∧
      timeline.onPage run batch now =
        ({ timeline.merged batch now with view }, .error error)) ∨
    ∃ view demand, (timeline.merged batch now).view.resolveWindow = (view, .ok demand) ∧
      timeline.onPage run batch now =
        (((timeline.merged batch now).asking run view demand).1,
          .ok (((timeline.merged batch now).asking run view demand).2, true)) := by
  by_cases haccepts : timeline.view.sequence.Accepts batch
  · rcases Nat.lt_or_ge timeline.numItems batch.total with hlt | hle
    · have hgrown := onPage_of_grown haccepts hlt run now
      rcases hresolve : (timeline.merged batch now).view.resolveWindow with
        ⟨view, error | demand⟩ <;> rw [hresolve] at hgrown
      · exact Or.inr (Or.inl ⟨view, error, rfl, hgrown⟩)
      · exact Or.inr (Or.inr ⟨view, demand, rfl, hgrown⟩)
    · exact Or.inl ⟨_, onPage_of_accepts_le haccepts hle run now⟩
  · obtain ⟨error, hrefused⟩ := onPage_of_not_accepts haccepts run now
    exact Or.inl ⟨_, hrefused⟩

/-- When its accounts agree and its window fits a page, the view does not refuse. -/
theorem onPage_of_accepts_lt (hsound : timeline.Sound limit) {batch : Batch α}
    (haccepts : timeline.view.sequence.Accepts batch) (hlt : timeline.numItems < batch.total)
    (hlimit : batch.total ≤ limit) (run : RunId) (now : Nat) :
    let merged := timeline.merged batch now
    ∃ view demand, merged.view.Resolved view demand ∧ view.numItems = batch.total ∧
      view.window = timeline.view.window ∧
      timeline.onPage run batch now =
        ((merged.asking run view demand).1, .ok ((merged.asking run view demand).2, true)) := by
  intro merged
  obtain ⟨report, hmerge, _⟩ := PagedSequence.merge_of_accepts haccepts
  have hnumItems : merged.numItems = batch.total := by
    change (timeline.merged batch now).view.sequence.numItems = batch.total
    rw [merged_eq, PagedView.merge, hmerge]
    exact PagedSequence.numItems_stored ..
  have hmerged := sound_merged hsound hlimit now
  obtain ⟨demand, hresolve, hlacks, hcovers⟩ :=
    merged.view.resolveWindow_spec hmerged.accounted hmerged.fits
  refine ⟨{ merged.view with sequence := merged.view.sequence.markInFlight demand.pages }, demand,
    ⟨⟨rfl, Nat.le_refl _, rfl, hlacks⟩, hcovers⟩, hnumItems, ?_, ?_⟩
  · change (timeline.merged batch now).view.window = timeline.view.window
    rw [merged_eq]
    rfl
  · rw [onPage_of_grown haccepts hlt, hresolve]

end TraceViewer.Timeline
