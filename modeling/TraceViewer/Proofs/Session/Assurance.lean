import TraceViewer.Proofs.Session.TimelinePromises

/-!
# Assured windows

A window is *assured* when each of its slots is held or on its way (`Timeline.Assured`).
That it is covered does not suffice: a page that is being fetched may have been asked for
before the sequence grew, and then falls short of the slots that came later.  The marks of
a sequence are *abreast* of its total when no fetch falls short of an item that is known
(`PagedSequence.Abreast`), and then a window that is covered is assured.

As long as the total stays, the marks stay abreast (`assured_scroll`).  When it grows, they
do if no mark is left from before: then all marks are new, and they reach the new total
(`assured_onTotal`, `assured_onPage`).  So what a window must be spared is growth while a
page is being fetched.
-/

namespace TraceViewer

namespace PagedSequence

variable {α : Type} {sequence before after : PagedSequence α} {index : Nat}

/-- No fetch of a page falls short of an item that is known. -/
def Abreast (sequence : PagedSequence α) : Prop :=
  ∀ index < sequence.numItems, ¬ sequence.FallsShort index

theorem abreast_of_no_marks
    (hnone : ∀ page requestedEnd : Nat, sequence.inFlight[page]? ≠ some requestedEnd) :
    sequence.Abreast := by
  rintro index _ ⟨_, requestedEnd, hmark, _⟩
  exact hnone _ requestedEnd hmark

/-- More items and fewer marks at the same total. -/
theorem Abreast.mono (habreast : before.Abreast) (hsize : after.pageSize = before.pageSize)
    (htotal : after.numItems = before.numItems)
    (hitems : ∀ index ∈ before.items, index ∈ after.items)
    (hmarks : ∀ page requestedEnd : Nat, after.inFlight[page]? = some requestedEnd →
      before.inFlight[page]? = some requestedEnd) : after.Abreast := by
  rintro index hindex ⟨hempty, requestedEnd, hmark, hshort⟩
  rw [htotal] at hindex
  rw [hsize] at hmark
  exact habreast index hindex
    ⟨fun hmem => hempty (hitems index hmem), requestedEnd, hmarks _ _ hmark, hshort⟩

/-- A slot of a covered range is held, or its fetch reaches it. -/
theorem Abreast.promises (habreast : sequence.Abreast) {range : Interval}
    (hcovers : sequence.Covers range) (hindex : index ∈ range) (hlt : index < sequence.numItems) :
    sequence.Promises index := by
  by_contra hnot
  exact habreast index hlt ((not_promises_iff_of_covers hcovers hindex).mp hnot)

end PagedSequence

/-- Asking marks pages up to the present total, so only growth can leave a mark behind. -/
theorem PagedView.Asks.abreast {α : Type} {before after : PagedView α} {demand : PageDemand}
    (hasks : before.Asks after demand) (habreast : before.sequence.Abreast)
    (hgrown : before.numItems < after.numItems →
      ∀ page requestedEnd : Nat, before.sequence.inFlight[page]? ≠ some requestedEnd) :
    after.sequence.Abreast := by
  rintro index hindex ⟨hempty, requestedEnd, hmark, hshort⟩
  rw [hasks.items_eq] at hempty
  rw [hasks.pageSize_eq, hasks.getElem?_inFlight] at hmark
  have hpos := before.sequence.pageSize_pos
  split_ifs at hmark with hpage
  · -- a new mark reaches the end of its page
    have hspan : index ∈ Page.span (Page.ofIndex index before.sequence.pageSize)
        before.sequence.pageSize after.numItems := (Page.mem_span hpos).mpr ⟨rfl, hindex⟩
    rw [Option.some.injEq] at hmark
    have hreach := (Interval.mem_def.mp hspan).2
    omega
  · by_cases hlt : before.numItems < after.numItems
    · -- an old mark would end short of the new total, but there is none
      exact hgrown hlt _ requestedEnd hmark
    · have hsame : after.numItems = before.numItems :=
        Nat.le_antisymm (Nat.le_of_not_lt hlt) hasks.numItems_le
      have hbefore : index < before.numItems := hsame ▸ hindex
      exact habreast index hbefore ⟨hempty, requestedEnd, hmark, hshort⟩

namespace Timeline

variable {α : Type} {timeline before after : Timeline α} {limit : Nat} {run : RunId}
  {pending queue : List PendingFetch}

/-- The marks are abreast of the total, and each slot of the window is held or on its
way. -/
structure Assured (timeline : Timeline α) : Prop where
  abreast : timeline.view.sequence.Abreast
  promises : ∀ index ∈ timeline.view.visibleRange, timeline.view.sequence.Promises index

/-- Whether no page is being fetched. -/
def Unmarked (timeline : Timeline α) : Prop :=
  ∀ start requestedEnd, ¬ timeline.Marked (.page start requestedEnd)

theorem Unmarked.inFlight (hunmarked : timeline.Unmarked) (page requestedEnd : Nat) :
    timeline.view.sequence.inFlight[page]? ≠ some requestedEnd := fun hmark =>
  hunmarked (page * timeline.view.sequence.pageSize) requestedEnd ⟨page, hmark, rfl⟩

theorem Unmarked.abreast (hunmarked : timeline.Unmarked) : timeline.view.sequence.Abreast :=
  PagedSequence.abreast_of_no_marks hunmarked.inFlight

theorem lt_numItems_of_visible {index : Nat} (hvisible : index ∈ timeline.view.visibleRange) :
    index < timeline.view.sequence.numItems := by
  have hindex := (PagedView.mem_visibleRange.mp hvisible).2
  exact Nat.lt_of_lt_of_le hindex (Nat.min_le_right _ _)

theorem assured_of_covered (habreast : timeline.view.sequence.Abreast)
    (hcovered : timeline.Covered) : timeline.Assured :=
  ⟨habreast, fun _ hvisible =>
    habreast.promises hcovered hvisible (lt_numItems_of_visible hvisible)⟩

/-- A window over an empty sequence shows no slot, and no item is known. -/
theorem assured_of_numItems_eq_zero (hempty : timeline.numItems = 0) : timeline.Assured := by
  have hzero : timeline.view.sequence.numItems = 0 := hempty
  refine assured_of_covered (fun index hindex => ?_) (covered_of_numItems_eq_zero hempty)
  omega

theorem Still.assured (hstill : before.Still after) (hassured : before.Assured) :
    after.Assured := by
  refine ⟨?_, ?_⟩
  · rw [hstill.sequence_eq]
    exact hassured.abreast
  · rw [hstill.sequence_eq, hstill.visibleRange_eq]
    exact hassured.promises

theorem Still.marked_page (hstill : before.Still after) {start requestedEnd : Nat} :
    after.Marked (.page start requestedEnd) ↔ before.Marked (.page start requestedEnd) := by
  rw [Marked, Marked, hstill.sequence_eq]

/-- A window that is asked for is covered, and a steady one keeps its promises. -/
theorem Attends.assured (hattends : before.Attends run pending after queue)
    (hassured : before.Assured) (habreast : after.view.sequence.Abreast) : after.Assured := by
  rcases hattends.covered_or with hcovered | hsteady
  · exact assured_of_covered habreast hcovered
  · refine ⟨habreast, fun index hvisible => ?_⟩
    rw [hsteady.visibleRange_eq] at hvisible
    exact (hsteady.promises_iff index).mpr (hassured.promises index hvisible)

/-- Asking leaves the marks abreast, when growth finds none. -/
theorem abreast_asking {view : PagedView α} {demand : PageDemand}
    (hasks : timeline.view.Asks view demand) (run : RunId)
    (habreast : timeline.view.sequence.Abreast)
    (hgrown : timeline.numItems < view.numItems → timeline.Unmarked) :
    (timeline.asking run view demand).1.view.sequence.Abreast := by
  rw [asking_fst]
  exact hasks.abreast habreast fun hlt => (hgrown hlt).inFlight

/-- A movement leaves the total, so it leaves the marks abreast. -/
theorem assured_scroll (hsound : timeline.Sound limit) (hfed : timeline.Fed run pending)
    (hassured : timeline.Assured) (step : ScrollStep) :
    (timeline.scroll run step).1.Assured := by
  refine (attends_scroll hsound hfed step).1.assured hassured ?_
  rcases scroll_spec hsound run step with ⟨error, hscroll⟩ | hscroll |
    ⟨view, demand, hresolved, htotal, hscroll⟩
  · rw [hscroll]
    exact hassured.abreast
  · rw [hscroll]
    exact hassured.abreast
  · rw [hscroll]
    refine abreast_asking hresolved.1 run hassured.abreast fun hlt => ?_
    rw [htotal] at hlt
    exact absurd hlt (Nat.lt_irrefl _)

/-- A total that finds no mark when it grows assures the window. -/
theorem assured_onTotal (hsound : timeline.Sound limit)
    (hfirsts : timeline.view.sequence.PagePrefix)
    (habreast : timeline.view.sequence.Abreast) {total : Nat} (hle : timeline.numItems ≤ total)
    (hgrown : timeline.numItems < total → timeline.Unmarked) (now : Nat) :
    (timeline.onTotal run total now).1.Assured ∧
      (timeline.onTotal run total now).1.numItems = total := by
  obtain ⟨view, demand, hresolved, htotal, _, hstep⟩ := onTotal_of_le hsound hle run now
  let finished := { timeline with totalLoad := timeline.totalLoad.finish now }
  rw [hstep]
  -- resolving covers the window, and what it asks for reaches the new end
  have hasks : finished.view.Asks view demand := hresolved.1
  refine ⟨assured_of_covered ?_ ?_, (numItems_asking ..).trans htotal⟩
  · exact abreast_asking hasks run habreast fun hlt => hgrown (htotal ▸ hlt)
  · unfold Covered
    rw [asking_fst]
    exact hresolved.2 hfirsts

/-- A page that was asked for, and that takes all marks when it shows that the sequence
grew, assures the window. -/
theorem assured_onPage (hsound : timeline.Sound limit) (hfed : timeline.Fed run pending)
    {batch : Batch α} (haccepts : timeline.view.sequence.Accepts batch)
    (hasked : .data run (.page timeline.kind batch.range) ∈ pending)
    (hlimit : batch.total ≤ limit) (hassured : timeline.Assured)
    (hgrown : timeline.numItems < batch.total → ∀ start requestedEnd,
      timeline.Marked (.page start requestedEnd) →
        SpansPage batch.range (.page start requestedEnd)) (now : Nat) :
    (timeline.onPage run batch now).1.Assured ∧
      (timeline.onPage run batch now).1.numItems = batch.total := by
  have hview := view_merged_of_accepts haccepts now
  have htotal : (timeline.merged batch now).numItems = batch.total := by
    rw [numItems, hview]
    exact PagedSequence.numItems_stored ..
  have hattends := (attends_onPage hsound hfed haccepts hasked hlimit now).1
  by_cases hlt : timeline.numItems < batch.total
  · -- the page takes all marks, so those that are set then are the only ones
    have hunmarked : (timeline.merged batch now).Unmarked := by
      intro start requestedEnd hmark
      obtain ⟨hold, hshort⟩ := marked_merged hmark
      exact hshort (hgrown hlt start requestedEnd hold)
    obtain ⟨view, demand, hresolved, hknown, _, hstep⟩ :=
      onPage_of_accepts_lt hsound haccepts hlt hlimit run now
    rw [hstep] at hattends ⊢
    exact ⟨hattends.assured hassured (abreast_asking hresolved.1 run hunmarked.abreast
      fun _ => hunmarked), (numItems_asking ..).trans hknown⟩
  · have hle := Nat.le_of_not_lt hlt
    rw [onPage_of_accepts_le haccepts hle] at hattends ⊢
    refine ⟨hattends.assured hassured ?_, htotal⟩
    have hsame : batch.total = timeline.view.sequence.numItems := Nat.le_antisymm hle haccepts.1
    refine hassured.abreast.mono ?_ ?_ ?_ ?_
    · rw [hview]
      exact PagedSequence.pageSize_stored ..
    · exact htotal.trans hsame
    · intro index hmem
      rw [hview]
      exact (PagedSequence.mem_stored haccepts).mpr (Or.inr hmem)
    · intro page requestedEnd hmark
      rw [hview] at hmark
      have hkept := (marked_release hmark).1
      rwa [PagedSequence.inFlight_stored] at hkept

end Timeline

end TraceViewer
