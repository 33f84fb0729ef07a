import TraceViewer.Proofs.Paging.LogMerges

/-!
# Answers that fall short

A page that was asked for once is marked with the end of the range it was asked for
(`mark_of_only_demand`), and that range is answered once.  The answer is short when it
starts with the page and ends before the range does, because the source has less than the
sequence was told.  Nothing else is going to come for the range, and yet the mark outlives
a short answer, whether it is merged or refused, unless the page is complete
(`isInFlight_merge_eq_false_iff`).  The next window that needs the page does not get it
handed out (`asked_again_iff_answered_whole`).

That a mark may outlive an answer is meant for the answers of earlier and shorter
requests.  The history of demands (`demandsFor`) says that here there were none.
-/

namespace TraceViewer.PagedSequence

variable {α : Type} {sequence : PagedSequence α} {page requestedEnd : Nat}

/-! ## The demands of a history -/

/-- The demand that an operation makes, if it names a page. -/
def demandFor? (page : Nat) (sequence : PagedSequence α) : Act α → Option PageDemand
  | .requestWindow window =>
    match (sequence.requestWindow window).2 with
    | .ok demand => if page ∈ demand.pages then some demand else none
    | .error _ => none
  | .setNumItems _ | .failFetch _ | .merge _ => none

/-- The demands of a history that name a page, the earliest first. -/
def demandsFor (page : Nat) (sequence : PagedSequence α) (acts : List (Act α)) :
    List PageDemand :=
  gather (demandFor? page) sequence acts

theorem getElem?_inFlight_of_release {range : Interval}
    (hmark : (sequence.release range).1.inFlight[page]? = some requestedEnd) :
    sequence.inFlight[page]? = some requestedEnd := by
  rw [getElem?_inFlight_release, Option.filter_eq_some_iff] at hmark
  exact hmark.1

/-- A request that is turned down changes nothing. -/
theorem requestWindow_eq_of_error {window : Interval} {after : PagedSequence α}
    {error : ViewError} (hrequest : sequence.requestWindow window = (after, .error error)) :
    after = sequence := by
  rw [requestWindow] at hrequest
  split at hrequest
  · exact (congrArg Prod.fst hrequest).symm
  · cases hrequest

/-- A mark that an operation leaves was there before and the operation did not ask for its
page, or the operation asked for the page and the mark is the end of the page's span. -/
theorem mark_perform {act : Act α}
    (hmark : (sequence.perform act).inFlight[page]? = some requestedEnd) :
    demandFor? page sequence act = none ∧ sequence.inFlight[page]? = some requestedEnd ∨
      ∃ demand, demandFor? page sequence act = some demand ∧
        requestedEnd = (Page.span page sequence.pageSize sequence.numItems).stop ∧
        demand.ranges = Page.coalesce sequence.pageSize sequence.numItems demand.pages := by
  cases act with
  | setNumItems total =>
      refine Or.inl ⟨rfl, ?_⟩
      rw [perform, setNumItems] at hmark
      split_ifs at hmark <;> exact hmark
  | failFetch range => exact Or.inl ⟨rfl, getElem?_inFlight_of_release hmark⟩
  | merge batch =>
      refine Or.inl ⟨rfl, ?_⟩
      by_cases haccepts : sequence.Accepts batch
      · obtain ⟨report, hmerge, _⟩ := merge_of_accepts haccepts
        rw [perform, hmerge] at hmark
        rw [← inFlight_stored sequence batch]
        exact getElem?_inFlight_of_release hmark
      · obtain ⟨error, hmerge⟩ := merge_of_not_accepts haccepts
        rw [perform, hmerge] at hmark
        exact getElem?_inFlight_of_release hmark
  | requestWindow window =>
      rw [perform] at hmark
      rcases hrequest : sequence.requestWindow window with ⟨after, error | demand⟩
      · rw [hrequest, requestWindow_eq_of_error hrequest] at hmark
        exact Or.inl ⟨by simp [demandFor?, hrequest], hmark⟩
      · rw [hrequest] at hmark
        rcases requestWindow_cases hrequest with ⟨_, rfl, rfl⟩ | ⟨hadmits, rfl, hdemand⟩
        · exact Or.inl ⟨by simp [demandFor?, hrequest], hmark⟩
        · rw [getElem?_markInFlight] at hmark
          -- a demand marks its pages up to the ends of their spans
          by_cases hpage : page ∈ demand.pages
          · rw [if_pos hpage, Option.some.injEq] at hmark
            refine Or.inr ⟨demand, by simp [demandFor?, hrequest, hpage], hmark.symm, ?_⟩
            rw [hdemand]
            rfl
          · rw [if_neg hpage] at hmark
            exact Or.inl ⟨by simp [demandFor?, hrequest, hpage], hmark⟩

/-- A mark that a history leaves was there before and nothing in the history asked for its
page, or it comes from the last demand that names the page. -/
theorem mark_performAll {acts : List (Act α)}
    (hmark : (sequence.performAll acts).inFlight[page]? = some requestedEnd) :
    demandsFor page sequence acts = [] ∧ sequence.inFlight[page]? = some requestedEnd ∨
      ∃ demand total, (demandsFor page sequence acts).getLast? = some demand ∧
        requestedEnd = (Page.span page sequence.pageSize total).stop ∧
        demand.ranges = Page.coalesce sequence.pageSize total demand.pages := by
  induction acts generalizing sequence with
  | nil => exact Or.inl ⟨rfl, hmark⟩
  | cons act rest ih =>
      have hsize := sequence.pageSize_perform act
      rw [demandsFor, gather]
      rcases ih hmark with ⟨hnone, hkept⟩ | ⟨demand, total, hlast, hstop, hranges⟩
      · rw [demandsFor] at hnone
        rw [hnone, List.append_nil]
        -- nothing later names the page, so the mark is as the first operation leaves it
        rcases mark_perform hkept with ⟨hquiet, hbefore⟩ | ⟨demand, hasked, hstop, hranges⟩
        · exact Or.inl ⟨by rw [hquiet, Option.toList_none], hbefore⟩
        · exact Or.inr ⟨demand, sequence.numItems, by simp [hasked], hstop, hranges⟩
      · rw [hsize] at hstop hranges
        rw [demandsFor] at hlast
        exact Or.inr ⟨demand, total, by rw [List.getLast?_append, hlast]; rfl, hstop, hranges⟩

/-- A page that was asked for once, alone, is marked with the end of its range, which
starts with the page. -/
theorem mark_of_only_demand {pageSize : Nat} {hpos : 0 < pageSize} {acts : List (Act α)}
    {range : Interval}
    (honly : demandsFor page (ofPageSize pageSize hpos) acts =
      [{ pages := [page], ranges := [range] }])
    (hmarked : ((ofPageSize pageSize hpos).performAll acts).isInFlight page = true) :
    range.start = page * pageSize ∧
      ((ofPageSize pageSize hpos).performAll acts).inFlight[page]? = some range.stop := by
  obtain ⟨requestedEnd, hmark⟩ := isInFlight_iff.mp hmarked
  rcases mark_performAll hmark with ⟨hnone, _⟩ | ⟨demand, total, hlast, hstop, hranges⟩
  · rw [honly] at hnone
    cases hnone
  · rw [honly, List.getLast?_singleton, Option.some.injEq] at hlast
    subst hlast
    -- the demand had the one range, so it ends where the page does
    change requestedEnd = (Page.span page pageSize total).stop at hstop
    change [range] = Page.coalesce pageSize total [page] at hranges
    simp only [Page.coalesce] at hranges
    split_ifs at hranges with hempty
    obtain rfl := List.singleton_inj.mp hranges
    exact ⟨rfl, by rw [hmark, hstop]⟩

/-! ## The answer -/

/-- An answer that starts with a page takes its mark exactly when it reaches the end that
the page was requested up to or leaves the page complete. -/
theorem isInFlight_merge_eq_false_iff {batch : Batch α}
    (hmark : sequence.inFlight[page]? = some requestedEnd)
    (hstart : batch.range.start = page * sequence.pageSize) :
    (sequence.merge batch).1.isInFlight page = false ↔
      requestedEnd ≤ batch.range.stop ∨ (sequence.merge batch).1.isPageComplete page = true := by
  -- accepted or not, what is held is fixed before the marks are taken
  obtain ⟨held, hmarks, hsize, hmerge⟩ : ∃ held : PagedSequence α,
      held.inFlight = sequence.inFlight ∧ held.pageSize = sequence.pageSize ∧
        (sequence.merge batch).1 = (held.release batch.range).1 := by
    by_cases haccepts : sequence.Accepts batch
    · obtain ⟨report, hmerge, _⟩ := merge_of_accepts haccepts
      exact ⟨sequence.stored batch, inFlight_stored .., pageSize_stored .., by rw [hmerge]⟩
    · obtain ⟨error, hmerge⟩ := merge_of_not_accepts haccepts
      exact ⟨sequence, rfl, rfl, by rw [hmerge]⟩
  have hcomplete : (held.release batch.range).1.isPageComplete page =
      held.isPageComplete page := rfl
  have hnamed : page ∈ Page.startingIn batch.range held.pageSize := by
    rw [Page.mem_startingIn held.pageSize_pos, Interval.mem_def, hsize]
    omega
  rw [hmerge, hcomplete, Bool.eq_false_iff, Ne, isInFlight_iff, getElem?_inFlight_release, hmarks,
    hmark]
  simp [Option.filter, releases, hnamed]
  rw [imp_iff_not_or, Nat.not_lt]

/-! ## The request after the answer -/

section Missing

variable {window : Interval} {missing : List Nat}

/-- A page that a window is missing is not complete. -/
theorem Accounted.not_complete_of_missing (hacc : sequence.Accounted)
    (hmissing : Page.missing window sequence.pageSize sequence.numItems sequence.loadedSizes =
      .ok missing) (hpage : page ∈ missing) : sequence.isPageComplete page = false := by
  unfold Page.missing at hmissing
  split_ifs at hmissing with hsize hreversed hpast hwide hempty
  · cases hmissing
    simp at hpage
  · cases hmissing
    have hadmits : sequence.Admits window := ⟨by omega, by omega, by omega⟩
    obtain ⟨hfirst, hlast, hend⟩ := hadmits.page_bounds
    rcases (hadmits.mem_missingOf hacc).mp hpage with ⟨_, hincomplete⟩ | ⟨rfl, _, hsecond⟩
    · exact hincomplete
    · exact hacc.isPageComplete_eq_false hend hadmits.stop_le hsecond

/-- A page that a window is missing is handed out exactly when it is not being fetched. -/
theorem mem_demand_iff
    (hmissing : Page.missing window sequence.pageSize sequence.numItems sequence.loadedSizes =
      .ok missing) (hpage : page ∈ missing) :
    ∃ after demand, sequence.requestWindow window = (after, .ok demand) ∧
      (page ∈ demand.pages ↔ sequence.isInFlight page = false) := by
  rw [requestWindow, hmissing]
  refine ⟨_, _, rfl, ?_⟩
  rw [List.mem_filter, Bool.not_eq_true', and_iff_right hpage]

end Missing

/-- A page was asked for once, alone, and the one answer that its range will get comes,
whole, short or empty.  Merged or refused, the answer takes the mark exactly when it
reaches the end of the range or leaves the page complete, and a window that still needs
the page gets it handed out again exactly when the answer was whole. -/
theorem asked_again_iff_answered_whole (pageSize : Nat) (hpos : 0 < pageSize)
    (acts : List (Act α)) (page : Nat) (range : Interval) (batch : Batch α)
    (honly : demandsFor page (ofPageSize pageSize hpos) acts =
      [{ pages := [page], ranges := [range] }])
    (hmarked : ((ofPageSize pageSize hpos).performAll acts).isInFlight page = true)
    (hstart : batch.range.start = range.start)
    (hstop : batch.range.stop ≤ range.stop) :
    let answered := (((ofPageSize pageSize hpos).performAll acts).merge batch).1
    (answered.isInFlight page = false ↔
      batch.range.stop = range.stop ∨ answered.isPageComplete page = true) ∧
    ∀ (window : Interval) (missing : List Nat),
      Page.missing window answered.pageSize answered.numItems answered.loadedSizes =
        .ok missing → page ∈ missing →
      ∃ after demand, answered.requestWindow window = (after, .ok demand) ∧
        (page ∈ demand.pages ↔ batch.range.stop = range.stop) := by
  intro answered
  have hacc : ((ofPageSize pageSize hpos).performAll acts).Accounted :=
    accounted_performAll (accounted_ofPageSize pageSize hpos) acts
  obtain ⟨hpage, hmark⟩ := mark_of_only_demand honly hmarked
  have hreleased : answered.isInFlight page = false ↔
      batch.range.stop = range.stop ∨ answered.isPageComplete page = true := by
    -- the mark reaches to the end of the range that was asked for
    rw [isInFlight_merge_eq_false_iff hmark
      (by rw [hstart, hpage, pageSize_performAll]; rfl)]
    exact or_congr_left ⟨Nat.le_antisymm hstop, fun heq => Nat.le_of_eq heq.symm⟩
  refine ⟨hreleased, fun window missing hmissing hneeded => ?_⟩
  obtain ⟨after, demand, hrequest, hhanded⟩ := mem_demand_iff hmissing hneeded
  refine ⟨after, demand, hrequest, ?_⟩
  rw [hhanded, hreleased, (accounted_merge hacc batch).not_complete_of_missing hmissing hneeded]
  exact or_iff_left (by decide)

/-- The last page of three is asked for, and the source has shrunk by half of it: the
answer is refused, the mark stays, and the page is not handed out again. -/
theorem not_asked_again_after_shrinking :
    let answered := (((ofPageSize 10 (by decide) : PagedSequence Nat).performAll
      [.setNumItems 30, .requestWindow ⟨20, 24⟩]).merge
        ⟨⟨20, 25⟩, [20, 21, 22, 23, 24], 25⟩).1
    answered.isInFlight 2 = true ∧
      ∃ after demand, answered.requestWindow ⟨20, 24⟩ = (after, .ok demand) ∧
        2 ∉ demand.pages := by
  have hwhole := asked_again_iff_answered_whole (α := Nat) 10 (by decide)
    [.setNumItems 30, .requestWindow ⟨20, 24⟩] 2 ⟨20, 30⟩ ⟨⟨20, 25⟩, [20, 21, 22, 23, 24], 25⟩
    (by decide +kernel) (by decide +kernel) (by decide) (by decide)
  obtain ⟨after, demand, hrequest, hhanded⟩ :=
    hwhole.2 ⟨20, 24⟩ [2] (by decide +kernel) (by decide)
  exact ⟨by decide +kernel, after, demand, hrequest, fun hpage => absurd (hhanded.mp hpage)
    (by decide)⟩

/-- Not every answer to the only request for a page takes its mark: the empty one does
not, of a source that ends where the page starts. -/
theorem not_every_answer_releases :
    ¬ ∀ (acts : List (Act Nat)) (page : Nat) (range : Interval) (batch : Batch Nat),
      demandsFor page (ofPageSize 10 (by decide)) acts =
        [{ pages := [page], ranges := [range] }] →
      ((ofPageSize 10 (by decide)).performAll acts).isInFlight page = true →
      batch.range.start = range.start → batch.range.start ≤ batch.range.stop →
      batch.range.stop ≤ range.stop →
      (((ofPageSize 10 (by decide)).performAll acts).merge batch).1.isInFlight page = false := by
  intro hreleases
  have hreleased := hreleases [.setNumItems 30, .requestWindow ⟨20, 24⟩] 2 ⟨20, 30⟩
    ⟨⟨20, 20⟩, [], 20⟩ (by decide +kernel) (by decide +kernel) (by decide) (by decide)
    (by decide)
  exact absurd hreleased (by decide +kernel)

end TraceViewer.PagedSequence
