import TraceViewer.Proofs.Paging.WindowRequests

/-!
# Promised items

An item is *promised* when it is held, or when its page is being fetched far enough to
bring it.  A mark remembers how far: a page that was asked for before the sequence grew
is being fetched up to its old end only.  The fetch then *falls short* of the items that
came later, and as long as the mark stays the page is not asked for again.

Asking promises everything that it asks for (`Asks.promises_range`) and takes no promise
back.  An answer whose items were promised changes no promise at all
(`promises_release_stored`): it turns the promises that it takes the mark of into items,
and brings no item that was not promised.
-/

namespace TraceViewer

namespace PagedSequence

variable {α : Type} {sequence : PagedSequence α} {index : Nat}

/-- An item is held, or its page is being fetched far enough to bring it. -/
def Promises (sequence : PagedSequence α) (index : Nat) : Prop :=
  index ∈ sequence.items ∨
    ∃ requestedEnd, sequence.inFlight[Page.ofIndex index sequence.pageSize]? =
      some requestedEnd ∧ index < requestedEnd

/-- An item is not held, and its page is being fetched, but not far enough. -/
def FallsShort (sequence : PagedSequence α) (index : Nat) : Prop :=
  index ∉ sequence.items ∧
    ∃ requestedEnd, sequence.inFlight[Page.ofIndex index sequence.pageSize]? =
      some requestedEnd ∧ requestedEnd ≤ index

theorem not_promises_of_fallsShort (hshort : sequence.FallsShort index) :
    ¬ sequence.Promises index := by
  obtain ⟨hempty, requestedEnd, hmark, hle⟩ := hshort
  rintro (hmem | ⟨other, hother, hlt⟩)
  · exact hempty hmem
  · rw [hmark, Option.some.injEq] at hother
    omega

/-- When every empty slot of a range has its page being fetched, the slots that are not
promised are those that the fetch falls short of. -/
theorem not_promises_iff_of_covers {range : Interval} (hcovers : sequence.Covers range)
    (hindex : index ∈ range) : ¬ sequence.Promises index ↔ sequence.FallsShort index := by
  refine ⟨fun hnot => ?_, not_promises_of_fallsShort⟩
  have hempty : index ∉ sequence.items := fun hmem => hnot (Or.inl hmem)
  obtain ⟨requestedEnd, hmark⟩ := isInFlight_iff.mp (hcovers index hindex hempty)
  refine ⟨hempty, requestedEnd, hmark, Nat.le_of_not_lt fun hlt => ?_⟩
  exact hnot (Or.inr ⟨requestedEnd, hmark, hlt⟩)

/-- Once nothing is being fetched, nothing is promised but what is held. -/
theorem promises_iff_of_no_marks
    (hnone : ∀ page requestedEnd : Nat, sequence.inFlight[page]? ≠ some requestedEnd) :
    sequence.Promises index ↔ index ∈ sequence.items := by
  refine ⟨?_, Or.inl⟩
  rintro (hmem | ⟨requestedEnd, hmark, _⟩)
  · exact hmem
  · exact absurd hmark (hnone _ requestedEnd)

/-! ## Answers -/

/-- A mark that goes with an accepted batch leaves the items that it promised. -/
theorem mem_stored_of_releases (hacc : sequence.Accounted) {batch : Batch α}
    (haccepts : sequence.Accepts batch) {requestedEnd : Nat}
    (hmark : sequence.inFlight[Page.ofIndex index sequence.pageSize]? = some requestedEnd)
    (hlt : index < requestedEnd)
    (hreleases : (sequence.stored batch).releases batch.range
      (Page.ofIndex index sequence.pageSize) requestedEnd = true) :
    index ∈ (sequence.stored batch).items := by
  have hpos := sequence.pageSize_pos
  have hstart := hacc.lt_mark hmark
  have hend := hacc.mark_le hmark
  have hle := Page.start_le index sequence.pageSize
  rw [releases, Bool.and_eq_true, Bool.or_eq_true, decide_eq_true_eq, decide_eq_true_eq,
    pageSize_stored, Page.mem_startingIn hpos] at hreleases
  obtain ⟨hnamed, hreach | hcomplete⟩ := hreleases
  · -- the batch reaches the mark, so it brought the item itself
    refine (mem_stored haccepts).mpr (Or.inl ?_)
    rw [Interval.mem_def] at hnamed ⊢
    omega
  · refine ((accounted_stored hacc haccepts).isPageComplete_iff.mp hcomplete).2 index ?_
    have htotal := haccepts.1
    rw [Page.mem_span (sequence.stored batch).pageSize_pos, pageSize_stored, numItems_stored]
    exact ⟨rfl, by omega⟩

/-- An answer changes no promise when its items were promised. -/
theorem promises_release_stored (hacc : sequence.Accounted) {batch : Batch α}
    (haccepts : sequence.Accepts batch)
    (hpromised : ∀ index ∈ batch.range, sequence.Promises index) :
    ((sequence.stored batch).release batch.range).1.Promises index ↔
      sequence.Promises index := by
  -- the marks that are left are those that the answer does not take
  have hkept : ∀ {requestedEnd : Nat},
      ((sequence.stored batch).release batch.range).1.inFlight[Page.ofIndex index
          ((sequence.stored batch).release batch.range).1.pageSize]? = some requestedEnd ↔
        sequence.inFlight[Page.ofIndex index sequence.pageSize]? = some requestedEnd ∧
          (sequence.stored batch).releases batch.range
            (Page.ofIndex index sequence.pageSize) requestedEnd = false := by
    intro requestedEnd
    change ((sequence.stored batch).release batch.range).1.inFlight[Page.ofIndex index
      (sequence.stored batch).pageSize]? = some requestedEnd ↔ _
    rw [pageSize_stored, getElem?_inFlight_release, Option.filter_eq_some_iff, inFlight_stored,
      Bool.not_eq_true']
  constructor
  · rintro (hmem | ⟨requestedEnd, hmark, hlt⟩)
    · -- what the batch brought was promised
      rcases (mem_stored haccepts).mp hmem with hbatch | hheld
      · exact hpromised index hbatch
      · exact Or.inl hheld
    · exact Or.inr ⟨requestedEnd, (hkept.mp hmark).1, hlt⟩
  · rintro (hmem | ⟨requestedEnd, hmark, hlt⟩)
    · exact Or.inl ((mem_stored haccepts).mpr (Or.inr hmem))
    · -- a promise of a mark that goes is kept by an item
      cases hreleases : (sequence.stored batch).releases batch.range
        (Page.ofIndex index sequence.pageSize) requestedEnd with
      | false => exact Or.inr ⟨requestedEnd, hkept.mpr ⟨hmark, hreleases⟩, hlt⟩
      | true => exact Or.inl (mem_stored_of_releases hacc haccepts hmark hlt hreleases)

end PagedSequence

/-! ## Asking -/

namespace PagedView

variable {α : Type} {before after : PagedView α} {demand : PageDemand} {index : Nat}

/-- Asking takes no promise back: it asks for no page that is being fetched. -/
theorem Asks.promises (hasks : before.Asks after demand)
    (hpromised : before.sequence.Promises index) : after.sequence.Promises index := by
  rcases hpromised with hmem | ⟨requestedEnd, hmark, hlt⟩
  · refine Or.inl ?_
    rw [hasks.items_eq]
    exact hmem
  · refine Or.inr ⟨requestedEnd, ?_, hlt⟩
    rw [hasks.pageSize_eq, hasks.getElem?_inFlight, if_neg]
    · exact hmark
    · intro hpage
      have hidle := hasks.lacks.not_inFlight _ hpage
      exact Bool.eq_false_iff.mp hidle (PagedSequence.isInFlight_iff.mpr ⟨requestedEnd, hmark⟩)

/-- Asking promises every item that it asks for. -/
theorem Asks.promises_range (hasks : before.Asks after demand) {range : Interval}
    (hrange : range ∈ demand.ranges) (hindex : index ∈ range) :
    after.sequence.Promises index := by
  have hpos := before.sequence.pageSize_pos
  obtain ⟨hpage, hlt⟩ := (hasks.mem_ranges index).mp ⟨range, hrange, hindex⟩
  have hspan : index ∈ Page.span (Page.ofIndex index before.sequence.pageSize)
      before.sequence.pageSize after.numItems := (Page.mem_span hpos).mpr ⟨rfl, hlt⟩
  refine Or.inr ⟨_, ?_, (Interval.mem_def.mp hspan).2⟩
  rw [hasks.pageSize_eq, hasks.getElem?_inFlight, if_pos hpage]

end PagedView

end TraceViewer
