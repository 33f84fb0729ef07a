import TraceViewer.PagedView
import TraceViewer.Proofs.Paging.Accounting

/-!
# Checks of a batch

A view says of a batch whether it would merge it, without merging it, and it decides again
when the batch is there to be merged.  The two decisions are the same, down to the reason
that is given (`checkBatch_eq`): a smaller total comes first, and a batch that ends before it
starts, does not fill its range or passes its total comes second, whichever of the three it is.

A batch that is refused is dropped as a whole (`Drops`).  It answers a fetch nevertheless, so
marks may go, namely those of the requests that it answers.  It is the total from before that
says whether a page is complete there, as the one that the batch reports is not taken.
-/

namespace TraceViewer

namespace PagedSequence

variable {α : Type} {sequence : PagedSequence α} {range : Interval} {page requestedEnd : Nat}

/-- Whether an answer for a range ends the fetch of a page that was requested up to
`requestedEnd`: the page starts in the range, or where the range stands if that is empty, and
the range reaches that end or the page is complete anyway. -/
structure Ends (sequence : PagedSequence α) (range : Interval) (page requestedEnd : Nat) :
    Prop where
  starts : page * sequence.pageSize ∈ range ∨
    range.stop ≤ range.start ∧ page * sequence.pageSize = range.start
  reaches : requestedEnd ≤ range.stop ∨ sequence.isPageComplete page = true

theorem releases_iff_ends :
    sequence.releases range page requestedEnd = true ↔ sequence.Ends range page requestedEnd := by
  rw [releases, Bool.and_eq_true, decide_eq_true_eq, Bool.or_eq_true, decide_eq_true_eq,
    Page.mem_startingIn sequence.pageSize_pos]
  exact ⟨fun ⟨hstarts, hreaches⟩ => ⟨hstarts, hreaches⟩, fun hends => ⟨hends.1, hends.2⟩⟩

/-- The marks that a release leaves are those of the fetches that it does not end. -/
theorem mark_release_iff :
    (sequence.release range).1.inFlight[page]? = some requestedEnd ↔
      sequence.inFlight[page]? = some requestedEnd ∧
        ¬ sequence.Ends range page requestedEnd := by
  rw [getElem?_inFlight_release, Option.filter_eq_some_iff, Bool.not_eq_true', ← releases_iff_ends,
    Bool.not_eq_true]

end PagedSequence

namespace PagedView

variable {α : Type} {view after : PagedView α} {batch : Batch α} {error : ViewError}

/-- A check gives the reason that merging gives. -/
theorem checkBatch_eq (view : PagedView α) (batch : Batch α) :
    view.checkBatch batch.range batch.items.length batch.total =
      (view.merge batch).2.map fun _ => () := by
  rw [checkBatch, merge, PagedSequence.merge, numItems]
  by_cases hshrunk : batch.total < view.sequence.numItems
  · rw [if_pos hshrunk, if_pos hshrunk]
    rfl
  · rw [if_neg hshrunk, if_neg hshrunk]
    by_cases hfits : batch.range.start ≤ batch.range.stop ∧
        batch.range.start + batch.items.length = batch.range.stop ∧ batch.range.stop ≤ batch.total
    · -- the merge asks for what is wrong, where the check asks for what is right
      have hmerged : ¬ (batch.range.stop < batch.range.start ∨
          batch.items.length ≠ batch.range.length ∨ batch.total < batch.range.stop) := by
        rw [Interval.length]
        omega
      rw [if_pos hfits, if_neg hmerged]
      rfl
    · have hmisfit : batch.range.stop < batch.range.start ∨
          batch.items.length ≠ batch.range.length ∨ batch.total < batch.range.stop := by
        rw [Interval.length]
        omega
      rw [if_neg hfits, if_pos hmisfit]
      rfl

/-- What a batch leaves of a view that drops it: everything but the marks of the fetches that
an answer for its range ends. -/
structure Drops (view : PagedView α) (range : Interval) (after : PagedView α) : Prop where
  elsewhere : ∃ inFlight, after = { view with sequence := { view.sequence with inFlight } }
  marks : ∀ page requestedEnd, after.sequence.inFlight[page]? = some requestedEnd ↔
    view.sequence.inFlight[page]? = some requestedEnd ∧
      ¬ view.sequence.Ends range page requestedEnd

theorem drops_merge (hrefused : (view.merge batch).2 = .error error) :
    view.Drops batch.range (view.merge batch).1 := by
  by_cases haccepts : view.sequence.Accepts batch
  · obtain ⟨report, hmerge, _⟩ := PagedSequence.merge_of_accepts haccepts
    rw [merge, hmerge] at hrefused
    cases hrefused
  · obtain ⟨_, hmerge⟩ := PagedSequence.merge_of_not_accepts haccepts
    rw [merge, hmerge]
    exact ⟨⟨_, rfl⟩, fun _ _ => PagedSequence.mark_release_iff⟩

/-- Whatever a view holds and whatever a batch brings, the batch is merged exactly when it
passes the check, and refused for the reason that the check gives.  A batch that is refused
changes nothing but the marks of the fetches that it ends. -/
theorem merged_as_checked (view : PagedView α) (batch : Batch α) :
    let check := view.checkBatch batch.range batch.items.length batch.total
    let merged := view.merge batch
    (check = .ok () ↔ ∃ report, merged.2 = .ok report) ∧
      (∀ error, check = .error error ↔ merged.2 = .error error) ∧
      ∀ error, merged.2 = .error error → view.Drops batch.range merged.1 := by
  intro check merged
  have hcheck : check = merged.2.map fun _ => () := view.checkBatch_eq batch
  refine ⟨?_, fun error => ?_, fun error => drops_merge⟩
  · rw [hcheck]
    cases merged.2 <;> simp [Except.map]
  · rw [hcheck]
    cases merged.2 <;> simp [Except.map]

/-- Two pages are being fetched, and a batch comes that starts in both, reaches the end of one
only and lacks an item: that page is no longer being fetched, and the other one still is. -/
theorem merged_as_checked_between_pages :
    let start : PagedView Nat := fresh ⟨10, 6⟩ (by decide)
    let view := ((start.setNumItems 30).1.recenter 20).1
    let batch : Batch Nat := ⟨⟨10, 25⟩, [1, 2, 3], 30⟩
    let merged := view.merge batch
    let misfit : ViewError := .invalidArgument (.misfitBatch 10 25 3 30)
    view.sequence.inFlight.toList = [(0, 10), (1, 20), (2, 30)] ∧
      view.checkBatch ⟨10, 25⟩ 3 30 = .error misfit ∧ merged.2 = .error misfit ∧
      view.Drops batch.range merged.1 ∧
      merged.1.sequence.inFlight.toList = [(0, 10), (2, 30)] := by
  intro start view batch merged misfit
  have hmerged := merged_as_checked view batch
  have hcheck : view.checkBatch ⟨10, 25⟩ 3 30 = .error misfit := by decide +kernel
  have hresult := (hmerged.2.1 _).mp hcheck
  exact ⟨by decide +kernel, hcheck, hresult, hmerged.2.2 _ hresult, by decide +kernel⟩

end PagedView

end TraceViewer
