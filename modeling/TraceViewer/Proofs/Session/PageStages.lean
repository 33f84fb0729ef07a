import TraceViewer.Proofs.Session.TimelineHistories

/-!
# How far loading the pages has come

A timeline keeps a stage of loading for its pages, and its sequence keeps the set of pages
that are being fetched.  The two are written by different steps: a request marks pages before
loading starts, a batch takes marks away before the stage is looked at, and a larger total
may mark pages again in the same step.

They agree nevertheless (`Timeline.Candid`): the pages count as loading only while one of
them is being fetched, and as not loaded or loaded only while none is.  A failed stage says
nothing of the marks, because one failure leaves the marks of the other fetches.

What a step of the view does to the marks is one equation (`PagedView.Marks`): afterwards no
page is being fetched exactly when none was before and none is handed out.  From it the
invariant follows for every change of a timeline, and so for both timelines of every session
that can be reached (`page_stages_truthful`).
-/

namespace TraceViewer

/-! ## Marks -/

namespace PagedSequence

variable {α : Type} {sequence : PagedSequence α}

theorem isIdle_iff :
    sequence.isIdle = true ↔ ∀ page, ¬ sequence.isInFlight page = true := by
  rw [isIdle, Std.ExtTreeMap.isEmpty_iff, Std.ExtTreeMap.eq_empty_iff_forall_not_mem]
  simp only [isInFlight, decide_eq_true_eq]

theorem isIdle_markInFlight (sequence : PagedSequence α) (pages : List Nat) :
    (sequence.markInFlight pages).isIdle = (sequence.isIdle && pages.isEmpty) := by
  rw [Bool.eq_iff_iff, Bool.and_eq_true, isIdle_iff, isIdle_iff, List.isEmpty_iff]
  simp only [isInFlight_markInFlight, not_or]
  constructor
  · intro hidle
    exact ⟨fun page => (hidle page).2, List.eq_nil_iff_forall_not_mem.mpr fun page =>
      (hidle page).1⟩
  · rintro ⟨hidle, rfl⟩ page
    exact ⟨List.not_mem_nil, hidle page⟩

/-- An answer takes marks and sets none. -/
theorem isIdle_release (hidle : sequence.isIdle = true) (range : Interval) :
    (sequence.release range).1.isIdle = true := by
  rw [isIdle_iff] at hidle ⊢
  intro page hmarked
  obtain ⟨requestedEnd, hmark⟩ := isInFlight_iff.mp hmarked
  rw [getElem?_inFlight_release, Option.filter_eq_some_iff] at hmark
  exact hidle page (isInFlight_iff.mpr ⟨requestedEnd, hmark.1⟩)

theorem isIdle_merge (hidle : sequence.isIdle = true) (batch : Batch α) :
    (sequence.merge batch).1.isIdle = true := by
  by_cases haccepts : sequence.Accepts batch
  · obtain ⟨report, hmerge, _⟩ := merge_of_accepts haccepts
    have hstored : (sequence.stored batch).isIdle = true := by
      rw [isIdle, inFlight_stored]
      exact hidle
    rw [hmerge]
    exact isIdle_release hstored batch.range
  · obtain ⟨error, hmerge⟩ := merge_of_not_accepts haccepts
    rw [hmerge]
    exact isIdle_release hidle batch.range

end PagedSequence

namespace PagedView

variable {α : Type} {view : PagedView α}

/-- A step of a view marks the pages that it hands out, and touches no other mark.  A step
that is refused hands out none. -/
def Marks (view : PagedView α) (result : PagedView α × Except ViewError PageDemand) : Prop :=
  result.1.sequence.isIdle = (view.sequence.isIdle && (result.2.toOption.getD {}).isEmpty)

theorem marks_nothing (view : PagedView α) : view.Marks (view, .ok {}) :=
  (Bool.and_true _).symm

theorem marks_refused (view : PagedView α) (error : ViewError) :
    view.Marks (view, .error error) :=
  (Bool.and_true _).symm

theorem marks_resolveWindow (view : PagedView α) : view.Marks view.resolveWindow := by
  rw [resolveWindow]
  split_ifs with hshown
  · exact view.marks_nothing
  · unfold PagedSequence.requestWindow
    cases Page.missing view.visibleRange view.sequence.pageSize view.sequence.numItems
        view.sequence.loadedSizes with
    | error error => exact view.marks_refused error
    | ok missing => exact PagedSequence.isIdle_markInFlight ..

theorem marks_moveTo (view : PagedView α) (target : Option ScrollWindow) :
    view.Marks (view.moveTo target) := by
  cases target with
  | none => exact view.marks_nothing
  | some window => exact marks_resolveWindow { view with window }

theorem marks_moveView (view : PagedView α) (step : ScrollStep) :
    view.Marks (Timeline.moveView view step) := by
  cases step with
  | left => exact view.marks_moveTo _
  | right => exact view.marks_moveTo _
  | recenter index => exact view.marks_moveTo _
  | toIndex index =>
      rw [Timeline.moveView, scrollTo]
      split
      · exact view.marks_refused _
      · exact view.marks_moveTo _

theorem marks_setNumItems (view : PagedView α) (total : Nat) :
    view.Marks (view.setNumItems total) := by
  rw [setNumItems, PagedSequence.setNumItems]
  split_ifs with hshrunk
  · exact view.marks_refused _
  · exact marks_resolveWindow { view with sequence := { view.sequence with numItems := total } }

end PagedView

/-! ## Stages -/

namespace Timeline

variable {α : Type} {timeline before after : Timeline α}

/-- The stage of the pages is true of the marks. -/
structure Candid (timeline : Timeline α) : Prop where
  fetching : timeline.pagesLoad.phase = .loading →
    ∃ page, timeline.view.sequence.isInFlight page = true
  resting : timeline.pagesLoad.phase = .notLoaded ∨ timeline.pagesLoad.phase = .loaded →
    ∀ page, ¬ timeline.view.sequence.isInFlight page = true

/-- Only whether a page is being fetched matters, not which. -/
theorem candid_iff :
    timeline.Candid ↔
      (timeline.pagesLoad.phase = .loading → timeline.isIdle = false) ∧
      (timeline.pagesLoad.phase = .notLoaded ∨ timeline.pagesLoad.phase = .loaded →
        timeline.isIdle = true) := by
  have hbusy : timeline.isIdle = false ↔
      ∃ page, timeline.view.sequence.isInFlight page = true := by
    rw [← Bool.not_eq_true, isIdle, PagedSequence.isIdle_iff, not_forall_not]
  have hidle : timeline.isIdle = true ↔
      ∀ page, ¬ timeline.view.sequence.isInFlight page = true := PagedSequence.isIdle_iff
  rw [hbusy, hidle]
  exact ⟨fun hcandid => ⟨hcandid.fetching, hcandid.resting⟩, fun h => ⟨h.1, h.2⟩⟩

theorem candid_fresh (kind : SequenceKind) (geometry : Geometry) (valid : geometry.Valid) :
    (fresh kind geometry valid : Timeline α).Candid := by
  rw [candid_iff]
  exact ⟨nofun, fun _ => rfl⟩

theorem candid_of_failed (hfailed : timeline.pagesLoad.phase = .failed) : timeline.Candid := by
  rw [candid_iff, hfailed]
  exact ⟨nofun, by rintro (⟨⟨⟩⟩ | ⟨⟨⟩⟩)⟩

/-- The invariant looks at nothing but the stage and whether a page is being fetched. -/
theorem Candid.of_eq (hcandid : before.Candid) (hstage : after.pagesLoad = before.pagesLoad)
    (hidle : after.isIdle = before.isIdle) : after.Candid := by
  rw [candid_iff, hstage, hidle]
  exact candid_iff.mp hcandid

/-- A step that is refused leaves the marks and the stage. -/
theorem Candid.withRefused (hcandid : timeline.Candid) {view : PagedView α} {error : ViewError}
    (hmarks : timeline.view.Marks (view, .error error)) : { timeline with view }.Candid :=
  hcandid.of_eq rfl (hmarks.trans (Bool.and_true _))

/-- Loading starts exactly when a page is handed out, and that page is marked. -/
theorem Candid.asking (hcandid : timeline.Candid) {view : PagedView α} {demand : PageDemand}
    (hmarks : timeline.view.Marks (view, .ok demand)) (run : RunId) :
    (timeline.asking run view demand).1.Candid := by
  have hidle : { timeline with view }.isIdle = (timeline.isIdle && demand.isEmpty) := hmarks
  rw [asking_fst]
  by_cases hempty : demand.isEmpty = true
  · rw [if_pos hempty]
    rw [hempty, Bool.and_true] at hidle
    exact hcandid.of_eq rfl hidle
  · rw [if_neg hempty]
    rw [Bool.eq_false_iff.mpr hempty, Bool.and_false] at hidle
    refine candid_iff.mpr ⟨fun _ => hidle, ?_⟩
    rintro (⟨⟨⟩⟩ | ⟨⟨⟩⟩)

theorem Candid.scroll (hcandid : timeline.Candid) (run : RunId) (step : ScrollStep) :
    (timeline.scroll run step).1.Candid := by
  have hmarks := timeline.view.marks_moveView step
  rw [Timeline.scroll]
  rcases hmoved : moveView timeline.view step with ⟨view, error | demand⟩ <;>
    rw [hmoved] at hmarks
  · exact hcandid.withRefused hmarks
  · exact hcandid.asking hmarks run

theorem Candid.onTotal (hcandid : timeline.Candid) (run : RunId) (total now : Nat) :
    (timeline.onTotal run total now).1.Candid := by
  have hmarks := timeline.view.marks_setNumItems total
  rw [Timeline.onTotal]
  rcases hset : timeline.view.setNumItems total with ⟨view, error | demand⟩ <;>
    rw [hset] at hmarks
  · exact (hcandid.withRefused hmarks).of_eq rfl rfl
  · have hfinished : { timeline with totalLoad := timeline.totalLoad.finish now }.Candid :=
      hcandid.of_eq rfl rfl
    exact hfinished.asking hmarks run

/-- A batch decides the stage when it took the last mark.  Otherwise pages were being fetched
before, and the stage stays. -/
theorem Candid.merged (hcandid : timeline.Candid) (batch : Batch α) (now : Nat) :
    (timeline.merged batch now).Candid := by
  rw [candid_iff] at hcandid
  rw [Timeline.merged]
  split_ifs with hidle haccepts
  · refine candid_iff.mpr ⟨fun hloading => ?_, fun _ => hidle⟩
    cases hloading
  · exact candid_of_failed rfl
  · have hbusy : timeline.isIdle = false := by
      refine Bool.eq_false_iff.mpr fun hbefore => hidle ?_
      exact PagedSequence.isIdle_merge hbefore batch
    refine candid_iff.mpr ⟨fun _ => Bool.eq_false_iff.mpr hidle, fun hresting => ?_⟩
    exact absurd (hcandid.2 hresting) (Bool.eq_false_iff.mp hbusy)

theorem Candid.onPage (hcandid : timeline.Candid) (run : RunId) (batch : Batch α) (now : Nat) :
    (timeline.onPage run batch now).1.Candid := by
  have hmerged := hcandid.merged batch now
  have hmarks := (timeline.merged batch now).view.marks_resolveWindow
  rcases timeline.onPage_cases run batch now with ⟨result, hpage⟩ | ⟨view, error, hview, hpage⟩ |
    ⟨view, demand, hview, hpage⟩ <;> rw [hpage]
  · exact hmerged
  · rw [hview] at hmarks
    exact hmerged.withRefused hmarks
  · -- the larger total may have brought pages into view that nobody fetched before
    rw [hview] at hmarks
    exact hmerged.asking hmarks run

/-- No change makes the stage untrue. -/
theorem candid_change (hchange : Change before after) (hcandid : before.Candid) :
    after.Candid := by
  cases hchange with
  | scroll run step => exact hcandid.scroll run step
  | onTotal run total now => exact hcandid.onTotal run total now
  | onPage run batch now => exact hcandid.onPage run batch now
  | onPageFailed range => exact candid_of_failed rfl
  | requestTotal | setFocus | onTotalFailed => exact hcandid.of_eq rfl rfl

end Timeline

/-! ## Sessions -/

/-- Whatever a session is told, the stage of the pages is true of the marks in both of its
sequences. -/
theorem Session.page_stages_truthful (config : Config) (valid : config.Valid)
    (history : List (Event × Nat)) :
    let scope := ((Session.fresh config valid).applyAll history).scope
    scope.executions.digests.Candid ∧ scope.graphExecutions.Candid :=
  (traced_applyAll config valid history).both (motive := Timeline.Candid) Timeline.candid_fresh
    fun hchange hcandid => Timeline.candid_change hchange hcandid

/-- A page arrives whole, and the larger total that it brings has the same page fetched again:
loading ends and starts within one event. -/
theorem Session.page_stages_after_growth :
    let config : Config := { executions := ⟨2, 2⟩ }
    let scope := ((Session.fresh config (by decide)).applyAll
      [(.activeRunChanged (some "a"), 0), (.loaded "a" (.numExecutions 1), 1),
        (.loaded "a" (.executionDigests ⟨⟨0, 1⟩, [⟨"Add", []⟩], 3⟩), 2)]).scope
    scope.executions.digests.pagesLoad = { phase := .loading, lastLoaded := some 2 } ∧
      scope.executions.digests.view.sequence.inFlight.toList = [(0, 2)] ∧
      scope.executions.digests.Candid ∧ scope.graphExecutions.Candid := by
  refine ⟨by decide +kernel, by decide +kernel, ?_⟩
  exact Session.page_stages_truthful { executions := ⟨2, 2⟩ } (by decide)
    [(.activeRunChanged (some "a"), 0), (.loaded "a" (.numExecutions 1), 1),
      (.loaded "a" (.executionDigests ⟨⟨0, 1⟩, [⟨"Add", []⟩], 3⟩), 2)]

end TraceViewer
