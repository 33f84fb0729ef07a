import TraceViewer.Proofs.Paging.WindowRequests

/-!
# What a request hands out

A paged sequence is told totals, asked for windows, and given batches and failures, in
any order and with any arguments.  As long as every batch starts with a page, whether it
is merged or refused, three facts hold at all times (`Tidy`): the counts agree with the
items, the items held of a page are its first ones, and no page is being fetched that is
complete.

They make every request complete and minimal (`Tidy.serves`).
Afterwards no slot of the window is empty unless its page is being fetched, and every
page that is handed out was needed: it was incomplete, it shows in the window, and
nobody was fetching it.

A window can be filled and still ask for its first page, because the first page of a
window is completed as long as the sequence goes on, also past the end of the window
(`held_window_asks`).  That page is the only one it can ask for.
-/

namespace TraceViewer.PagedSequence

variable {α : Type}

/-! ## Histories -/

/-- One operation on a paged sequence. -/
inductive Act (α : Type) where
  | setNumItems (total : Nat)
  | requestWindow (window : Interval)
  | failFetch (range : Interval)
  | merge (batch : Batch α)

/-- Whether a batch, if there is one, starts with a page. -/
def Act.Aligned (pageSize : Nat) : Act α → Prop
  | .merge batch => batch.range.start % pageSize = 0
  | .setNumItems _ | .requestWindow _ | .failFetch _ => True

/-- Carry out an operation, accepted or not. -/
def perform (sequence : PagedSequence α) : Act α → PagedSequence α
  | .setNumItems total => (sequence.setNumItems total).1
  | .requestWindow window => (sequence.requestWindow window).1
  | .failFetch range => (sequence.failFetch range).1
  | .merge batch => (sequence.merge batch).1

/-- Carry out operations, one after the other. -/
def performAll (sequence : PagedSequence α) (acts : List (Act α)) : PagedSequence α :=
  acts.foldl perform sequence

/-! ## The invariant -/

/-- What holds throughout a history whose batches start with a page. -/
structure Tidy (sequence : PagedSequence α) : Prop where
  accounted : sequence.Accounted
  pagePrefix : sequence.PagePrefix
  incomplete : ∀ {page : Nat}, sequence.isInFlight page = true →
    sequence.isPageComplete page = false

theorem tidy_ofPageSize (pageSize : Nat) (hpos : 0 < pageSize) :
    (ofPageSize pageSize hpos : PagedSequence α).Tidy where
  accounted := accounted_ofPageSize pageSize hpos
  pagePrefix := pagePrefix_ofPageSize pageSize hpos
  incomplete := by simp [ofPageSize, isInFlight]

/-- A page that is being fetched lies in the sequence. -/
theorem Accounted.lt_of_isInFlight {sequence : PagedSequence α} (hacc : sequence.Accounted)
    {page : Nat} (hmarked : sequence.isInFlight page = true) :
    page * sequence.pageSize < sequence.numItems := by
  obtain ⟨requestedEnd, hmark⟩ := isInFlight_iff.mp hmarked
  have := hacc.lt_mark hmark
  have := hacc.mark_le hmark
  omega

/-- A page that is complete at a larger total was complete already, if it existed. -/
theorem Accounted.isPageComplete_of_withNumItems {sequence : PagedSequence α}
    (hacc : sequence.Accounted) {total page : Nat} (htotal : sequence.numItems ≤ total)
    (hpage : page * sequence.pageSize < sequence.numItems)
    (hcomplete : { sequence with numItems := total }.isPageComplete page = true) :
    sequence.isPageComplete page = true := by
  have hpos := sequence.pageSize_pos
  rw [hacc.isPageComplete_iff]
  refine ⟨hpage, ?_⟩
  intro index hindex
  rw [Page.mem_span hpos] at hindex
  refine ((accounted_withNumItems hacc htotal).isPageComplete_iff.mp hcomplete).2 index ?_
  exact (Page.mem_span hpos).mpr ⟨hindex.1, Nat.lt_of_lt_of_le hindex.2 htotal⟩

theorem tidy_withNumItems {sequence : PagedSequence α} (htidy : sequence.Tidy) {total : Nat}
    (htotal : sequence.numItems ≤ total) : { sequence with numItems := total }.Tidy where
  accounted := accounted_withNumItems htidy.accounted htotal
  pagePrefix := htidy.pagePrefix
  incomplete := by
    intro page hmarked
    refine Bool.eq_false_iff.mpr fun hcomplete => ?_
    have hbefore := htidy.accounted.isPageComplete_of_withNumItems htotal
      (htidy.accounted.lt_of_isInFlight hmarked) hcomplete
    rw [htidy.incomplete hmarked] at hbefore
    exact absurd hbefore (by decide)

theorem tidy_setNumItems {sequence : PagedSequence α} (htidy : sequence.Tidy) (total : Nat) :
    (sequence.setNumItems total).1.Tidy := by
  unfold setNumItems
  split_ifs with hshrunk
  · exact htidy
  · exact tidy_withNumItems htidy (Nat.le_of_not_lt hshrunk)

theorem isInFlight_of_release {sequence : PagedSequence α} {range : Interval} {page : Nat}
    (hmarked : (sequence.release range).1.isInFlight page = true) :
    ∃ requestedEnd, sequence.inFlight[page]? = some requestedEnd ∧
      sequence.releases range page requestedEnd = false := by
  obtain ⟨requestedEnd, hmark⟩ := isInFlight_iff.mp hmarked
  rw [getElem?_inFlight_release, Option.filter_eq_some_iff, Bool.not_eq_true'] at hmark
  exact ⟨requestedEnd, hmark⟩

theorem tidy_release {sequence : PagedSequence α} (htidy : sequence.Tidy) (range : Interval) :
    (sequence.release range).1.Tidy where
  accounted := accounted_release htidy.accounted range
  pagePrefix := htidy.pagePrefix
  incomplete := by
    intro page hmarked
    obtain ⟨requestedEnd, hmark, _⟩ := isInFlight_of_release hmarked
    exact htidy.incomplete (isInFlight_iff.mpr ⟨requestedEnd, hmark⟩)

/-! ## Requests -/

/-- A window that is accepted is empty and asks for nothing, or it lies in the sequence
and asks for what it is missing. -/
theorem requestWindow_cases {sequence after : PagedSequence α} {window : Interval}
    {demand : PageDemand} (hrequest : sequence.requestWindow window = (after, .ok demand)) :
    window.start = window.stop ∧ after = sequence ∧ demand = {} ∨
      sequence.Admits window ∧ after = sequence.markInFlight demand.pages ∧
        demand = sequence.demandOf window := by
  by_cases hadmits : sequence.Admits window
  · rw [requestWindow_eq hadmits, Prod.mk.injEq, Except.ok.injEq] at hrequest
    obtain ⟨rfl, rfl⟩ := hrequest
    exact Or.inr ⟨hadmits, rfl, rfl⟩
  · rw [requestWindow] at hrequest
    cases hmissing : Page.missing window sequence.pageSize sequence.numItems
        sequence.loadedSizes with
    | error error =>
        rw [hmissing] at hrequest
        cases hrequest
    | ok missing =>
        rw [hmissing] at hrequest
        unfold Page.missing at hmissing
        split_ifs at hmissing with hsize hreversed hpast hwide hempty
        · -- of the windows that are not answered for, only an empty one is accepted
          cases hmissing
          cases hrequest
          exact Or.inl ⟨hempty, rfl, rfl⟩
        · exact absurd ⟨by omega, by omega, by omega⟩ hadmits

/-- A request is made of one interval: the two pages of a window follow each other. -/
theorem Admits.length_ranges_demandOf {sequence : PagedSequence α} {window : Interval}
    (hadmits : sequence.Admits window) : (sequence.demandOf window).ranges.length ≤ 1 := by
  have hnear : Page.ofIndex (window.stop - 1) sequence.pageSize ≤
      Page.ofIndex window.start sequence.pageSize + 1 := by
    have hlength := hadmits.length_le
    rw [Interval.length] at hlength
    rw [Page.ofIndex, Page.ofIndex, ← Nat.add_div_right _ sequence.pageSize_pos]
    exact Nat.div_le_div_right (by omega)
  have hle : Page.ofIndex window.start sequence.pageSize ≤
      Page.ofIndex (window.stop - 1) sequence.pageSize := by
    have := hadmits.lt
    exact Nat.div_le_div_right (by omega)
  refine Page.length_coalesce_le_one sequence.pageSize_pos
    (hadmits.ascending_missingOf.filter _)
    (show ∀ page ∈ (sequence.demandOf window).pages,
        page = Page.ofIndex window.start sequence.pageSize ∨
          page = Page.ofIndex window.start sequence.pageSize + 1 from ?_)
  intro page hpage
  have hmissing := (List.mem_filter.mp hpage).1
  rw [Page.missingOf, List.mem_append] at hmissing
  rcases hmissing with hmissing | hmissing <;> split_ifs at hmissing
  · exact Or.inl (List.mem_singleton.mp hmissing)
  · exact absurd hmissing List.not_mem_nil
  · have := List.mem_singleton.mp hmissing
    omega
  · exact absurd hmissing List.not_mem_nil

theorem tidy_requestWindow {sequence : PagedSequence α} (htidy : sequence.Tidy)
    (window : Interval) : (sequence.requestWindow window).1.Tidy := by
  match hrequest : sequence.requestWindow window with
  | (after, .error error) =>
      rw [requestWindow] at hrequest
      split at hrequest
      · cases hrequest
        exact htidy
      · cases hrequest
  | (after, .ok demand) =>
      rcases requestWindow_cases hrequest with ⟨_, rfl, _⟩ | ⟨hadmits, rfl, rfl⟩
      · exact htidy
      · have hlacks := lacks_demandOf htidy.accounted hadmits
        exact
          { accounted := accounted_markInFlight htidy.accounted hlacks.lt_numItems
            pagePrefix := htidy.pagePrefix
            incomplete := by
              intro page hmarked
              rcases isInFlight_markInFlight.mp hmarked with hpage | hmarked
              · exact hlacks.not_complete page hpage
              · exact htidy.incomplete hmarked }

/-! ## Batches -/

/-- A page that a merged batch completes is one of the pages that the batch names: the
batch starts with a page, so it starts no later than every page it brings an item of. -/
theorem Tidy.mem_startingIn_of_completed {sequence : PagedSequence α} (htidy : sequence.Tidy)
    {batch : Batch α} (haccepts : sequence.Accepts batch)
    (haligned : batch.range.start % sequence.pageSize = 0) {page : Nat}
    (hmarked : sequence.isInFlight page = true)
    (hcomplete : (sequence.stored batch).isPageComplete page = true) :
    page ∈ Page.startingIn batch.range sequence.pageSize := by
  have hpos := sequence.pageSize_pos
  have hfull := ((accounted_stored htidy.accounted haccepts).isPageComplete_iff.mp hcomplete).2
  rw [pageSize_stored, numItems_stored] at hfull
  -- an item of the page was missing before, and is not any more
  obtain ⟨index, hspan, hmissing⟩ : ∃ index,
      index ∈ Page.span page sequence.pageSize sequence.numItems ∧ index ∉ sequence.items := by
    by_contra hnone
    have hbefore : sequence.isPageComplete page = true :=
      htidy.accounted.isPageComplete_iff.mpr ⟨htidy.accounted.lt_of_isInFlight hmarked,
        fun index hindex => by_contra fun hmissing => hnone ⟨index, hindex, hmissing⟩⟩
    rw [htidy.incomplete hmarked] at hbefore
    exact absurd hbefore (by decide)
  rw [Page.mem_span hpos] at hspan
  have hstored := hfull index
    ((Page.mem_span hpos).mpr ⟨hspan.1, Nat.lt_of_lt_of_le hspan.2 haccepts.1⟩)
  rcases (mem_stored haccepts).mp hstored with hbatch | hheld
  · rw [Interval.mem_def] at hbatch
    have hstart := Page.start_le_of_aligned haligned hbatch.1 hspan.1
    have hfirst := ((Page.ofIndex_eq_iff hpos).mp hspan.1).1
    rw [Page.mem_startingIn hpos, Interval.mem_def]
    exact Or.inl ⟨hstart, by omega⟩
  · exact absurd hheld hmissing

theorem tidy_merge {sequence : PagedSequence α} (htidy : sequence.Tidy) {batch : Batch α}
    (haligned : batch.range.start % sequence.pageSize = 0) : (sequence.merge batch).1.Tidy := by
  by_cases haccepts : sequence.Accepts batch
  · obtain ⟨report, hmerge, _⟩ := merge_of_accepts haccepts
    rw [hmerge]
    exact
      { accounted := accounted_release (accounted_stored htidy.accounted haccepts) batch.range
        pagePrefix := pagePrefix_stored htidy.pagePrefix haccepts haligned
        incomplete := by
          intro page hmarked
          obtain ⟨requestedEnd, hmark, hkept⟩ := isInFlight_of_release hmarked
          rw [inFlight_stored] at hmark
          refine Bool.eq_false_iff.mpr fun hcomplete => ?_
          change (sequence.stored batch).isPageComplete page = true at hcomplete
          -- a page that the batch completes is released by it
          have hnamed := htidy.mem_startingIn_of_completed haccepts haligned
            (isInFlight_iff.mpr ⟨requestedEnd, hmark⟩) hcomplete
          rw [releases, pageSize_stored, hcomplete, Bool.or_true, Bool.and_true,
            decide_eq_false_iff_not] at hkept
          exact hkept hnamed }
  · obtain ⟨error, hmerge⟩ := merge_of_not_accepts haccepts
    rw [hmerge]
    exact tidy_release htidy batch.range

/-! ## Runs -/

theorem pageSize_perform (sequence : PagedSequence α) (act : Act α) :
    (sequence.perform act).pageSize = sequence.pageSize := by
  cases act with
  | setNumItems total =>
      rw [perform, setNumItems]
      split_ifs <;> rfl
  | requestWindow window =>
      rw [perform, requestWindow]
      split <;> rfl
  | failFetch range => rfl
  | merge batch => exact pageSize_merge sequence batch

theorem tidy_perform {sequence : PagedSequence α} (htidy : sequence.Tidy) {act : Act α}
    (haligned : act.Aligned sequence.pageSize) : (sequence.perform act).Tidy := by
  cases act with
  | setNumItems total => exact tidy_setNumItems htidy total
  | requestWindow window => exact tidy_requestWindow htidy window
  | failFetch range => exact tidy_release htidy range
  | merge batch => exact tidy_merge htidy haligned

theorem tidy_performAll {sequence : PagedSequence α} (htidy : sequence.Tidy)
    {acts : List (Act α)} (haligned : ∀ act ∈ acts, act.Aligned sequence.pageSize) :
    (sequence.performAll acts).Tidy := by
  induction acts generalizing sequence with
  | nil => exact htidy
  | cons act rest ih =>
      rw [List.forall_mem_cons] at haligned
      refine ih (tidy_perform htidy haligned.1) ?_
      rw [pageSize_perform]
      exact haligned.2

/-! ## Requests are complete and minimal -/

/-- The first page of a window is all that a window without uncovered slots asks for. -/
theorem Tidy.eq_first_of_covers {sequence : PagedSequence α} (htidy : sequence.Tidy)
    {window : Interval} (hadmits : sequence.Admits window) (hcovers : sequence.Covers window)
    {page : Nat} (hpage : page ∈ (sequence.demandOf window).pages) :
    page = Page.ofIndex window.start sequence.pageSize := by
  have hpos := sequence.pageSize_pos
  obtain ⟨hidle, hfirst | ⟨rfl, hsecond, hmissing⟩⟩ :=
    (mem_demandOf htidy.accounted hadmits).mp hpage
  · exact hfirst.1
  · -- the first missing item of the second page shows in the window
    have hlt := hadmits.lt
    obtain ⟨_, hlast, hend⟩ := hadmits.page_bounds
    have hle : Page.ofIndex window.start sequence.pageSize ≤
        Page.ofIndex (window.stop - 1) sequence.pageSize :=
      Nat.div_le_div_right (by omega)
    have hafter := Page.stop_le_start sequence.pageSize (Nat.lt_of_le_of_ne hle (Ne.symm hsecond))
    have hbefore := Page.lt_stop hpos window.start
    have hheld : Page.ofIndex (window.stop - 1) sequence.pageSize * sequence.pageSize +
        sequence.heldIn (Page.ofIndex (window.stop - 1) sequence.pageSize) < window.stop := by
      rw [Page.secondIsMissing, htidy.accounted.loadedSizes] at hmissing
      split_ifs at hmissing with hzero
      · omega
      · simpa using hmissing
    generalize hindex : Page.ofIndex (window.stop - 1) sequence.pageSize * sequence.pageSize +
      sequence.heldIn (Page.ofIndex (window.stop - 1) sequence.pageSize) = index at hheld
    have hindexPage : Page.ofIndex index sequence.pageSize =
        Page.ofIndex (window.stop - 1) sequence.pageSize :=
      (Page.ofIndex_eq_iff hpos).mpr ⟨by omega, by omega⟩
    have hempty : index ∉ sequence.items := by
      rw [htidy.pagePrefix.mem_iff hindexPage]
      omega
    have hmarked := hcovers index (Interval.mem_def.mpr ⟨by omega, hheld⟩) hempty
    rw [hindexPage, hidle] at hmarked
    exact absurd hmarked (by decide)

/-- A page that a request hands out shows in the window. -/
theorem Admits.shows {sequence : PagedSequence α} {window : Interval}
    (hadmits : sequence.Admits window) {page : Nat}
    (hpage : page ∈ (sequence.demandOf window).pages) :
    ∃ index ∈ window, Page.ofIndex index sequence.pageSize = page := by
  have hlt := hadmits.lt
  have hmissing := (List.mem_filter.mp hpage).1
  rw [Page.missingOf, List.mem_append] at hmissing
  rcases hmissing with hmissing | hmissing <;> split_ifs at hmissing
  · exact ⟨window.start, Interval.mem_def.mpr ⟨by omega, by omega⟩,
      (List.mem_singleton.mp hmissing).symm⟩
  · exact absurd hmissing List.not_mem_nil
  · exact ⟨window.stop - 1, Interval.mem_def.mpr ⟨by omega, by omega⟩,
      (List.mem_singleton.mp hmissing).symm⟩
  · exact absurd hmissing List.not_mem_nil

theorem demandOf_eq_empty {sequence : PagedSequence α} {window : Interval}
    (hnone : (sequence.demandOf window).pages = []) : sequence.demandOf window = {} := by
  have hranges : (sequence.demandOf window).ranges =
      Page.coalesce sequence.pageSize sequence.numItems (sequence.demandOf window).pages := rfl
  rw [hnone, Page.coalesce_nil] at hranges
  calc
    sequence.demandOf window =
        ⟨(sequence.demandOf window).pages, (sequence.demandOf window).ranges⟩ := rfl
    _ = {} := by rw [hnone, hranges]

/-- Asking again for a window hands out nothing: what is missing is being fetched. -/
theorem demandOf_markInFlight (sequence : PagedSequence α) (window : Interval) :
    (sequence.markInFlight (sequence.demandOf window).pages).demandOf window = {} := by
  refine demandOf_eq_empty (List.filter_eq_nil_iff.mpr ?_)
  intro page hmissing
  rw [Bool.not_eq_true', Bool.not_eq_false, isInFlight_markInFlight]
  by_cases hmarked : sequence.isInFlight page = true
  · exact Or.inr hmarked
  · exact Or.inl (List.mem_filter.mpr ⟨hmissing, by simpa using hmarked⟩)

/-- What a sequence does for a window that it accepts. -/
structure Serves (sequence : PagedSequence α) (window : Interval) (after : PagedSequence α)
    (demand : PageDemand) : Prop where
  /-- Every slot of the window is filled, or its page is being fetched. -/
  covers : after.Covers window
  /-- A window of which no page is being fetched shows its item in every slot. -/
  filled : (∀ index ∈ window, after.isInFlight (Page.ofIndex index after.pageSize) = false) →
    after.ShowsAll window
  /-- Where no slot was uncovered, the first page of the window is completed if nobody is
  at it, and nothing else is asked for. -/
  covered : sequence.Covers window → demand.pages =
    if window.start < window.stop ∧
        sequence.isInFlight (Page.ofIndex window.start sequence.pageSize) = false ∧
        sequence.isPageComplete (Page.ofIndex window.start sequence.pageSize) = false then
      [Page.ofIndex window.start sequence.pageSize]
    else []
  /-- Every page that is handed out shows in the window, lacks an item and was not being
  fetched. -/
  needed : ∀ page ∈ demand.pages, sequence.isInFlight page = false ∧
    sequence.isPageComplete page = false ∧
    ∃ index ∈ window, Page.ofIndex index sequence.pageSize = page
  /-- The pages are asked for at once, -/
  one_range : demand.ranges.length ≤ 1
  /-- and exactly their items are. -/
  mem_ranges : ∀ index, (∃ range ∈ demand.ranges, index ∈ range) ↔
    Page.ofIndex index sequence.pageSize ∈ demand.pages ∧ index < sequence.numItems
  /-- Asking once more changes nothing and hands out nothing. -/
  again : after.requestWindow window = (after, .ok {})

theorem Tidy.pages_of_covers {sequence : PagedSequence α} (htidy : sequence.Tidy)
    {window : Interval} (hadmits : sequence.Admits window) (hcovers : sequence.Covers window) :
    (sequence.demandOf window).pages =
      if sequence.isInFlight (Page.ofIndex window.start sequence.pageSize) = false ∧
          sequence.isPageComplete (Page.ofIndex window.start sequence.pageSize) = false then
        [Page.ofIndex window.start sequence.pageSize]
      else [] := by
  have hfirst : Page.ofIndex window.start sequence.pageSize ∈ (sequence.demandOf window).pages ↔
      sequence.isInFlight (Page.ofIndex window.start sequence.pageSize) = false ∧
        sequence.isPageComplete (Page.ofIndex window.start sequence.pageSize) = false := by
    rw [mem_demandOf htidy.accounted hadmits]
    simp
  have honly : ∀ page ∈ (sequence.demandOf window).pages,
      page = Page.ofIndex window.start sequence.pageSize :=
    fun page hpage => htidy.eq_first_of_covers hadmits hcovers hpage
  have hascending := (lacks_demandOf htidy.accounted hadmits).ascending
  simp only [← hfirst]
  cases hpages : (sequence.demandOf window).pages with
  | nil => simp
  | cons head rest =>
      rw [hpages] at honly hascending
      obtain ⟨rfl, hrest⟩ := List.forall_mem_cons.mp honly
      -- a later page would be the first page as well
      have hnil : rest = [] := by
        refine List.eq_nil_iff_forall_not_mem.mpr fun page hpage => ?_
        have hlt := (List.pairwise_cons.mp hascending).1 page hpage
        rw [hrest page hpage] at hlt
        exact Nat.lt_irrefl _ hlt
      rw [hnil, if_pos (List.mem_singleton_self _)]

/-- Every request that is accepted is served. -/
theorem Tidy.serves {sequence after : PagedSequence α} (htidy : sequence.Tidy)
    {window : Interval} {demand : PageDemand}
    (hrequest : sequence.requestWindow window = (after, .ok demand)) :
    sequence.Serves window after demand := by
  have hpos := sequence.pageSize_pos
  rcases requestWindow_cases hrequest with ⟨hempty, rfl, rfl⟩ | ⟨hadmits, rfl, rfl⟩
  · -- an empty window has no slots
    have hnone : ∀ index, index ∉ window := by
      intro index hindex
      rw [Interval.mem_def] at hindex
      omega
    exact
      { covers := fun index hindex => absurd hindex (hnone index)
        filled := fun _ =>
          showsAll_of_forall_mem fun index hindex => absurd hindex (hnone index)
        covered := by
          intro _
          rw [if_neg (by omega)]
        needed := by simp
        one_range := by simp
        mem_ranges := by simp
        again := hrequest }
  · have hcovers := covers_markInFlight htidy.accounted htidy.pagePrefix hadmits
    have hlacks := lacks_demandOf htidy.accounted hadmits
    exact
      { covers := hcovers
        filled := by
          intro hidle
          refine showsAll_of_forall_mem fun index hshown => ?_
          -- an empty slot lies in a page that is being fetched
          by_contra hempty
          have hmarked := hcovers index hshown hempty
          rw [hidle index hshown] at hmarked
          exact absurd hmarked (by decide)
        covered := by
          intro hcovered
          simpa only [hadmits.lt, true_and] using htidy.pages_of_covers hadmits hcovered
        needed := fun page hpage =>
          ⟨hlacks.not_inFlight page hpage, hlacks.not_complete page hpage, hadmits.shows hpage⟩
        one_range := hadmits.length_ranges_demandOf
        mem_ranges := Page.mem_coalesce hpos _
        again := by
          have hagain : (sequence.markInFlight (sequence.demandOf window).pages).Admits window :=
            ⟨hadmits.lt, hadmits.stop_le, hadmits.length_le⟩
          rw [requestWindow_eq hagain, demandOf_markInFlight]
          rfl }

/-- After any history whose batches start with a page: the items held of a page are its
first ones, no page is being fetched that is complete, and every window that is accepted
is served. -/
theorem tidy_and_serves_after_aligned (pageSize : Nat) (hpos : 0 < pageSize)
    (acts : List (Act α)) (haligned : ∀ act ∈ acts, act.Aligned pageSize) :
    let sequence := (ofPageSize pageSize hpos).performAll acts
    sequence.PagePrefix ∧
    (∀ page, sequence.isInFlight page = true → sequence.isPageComplete page = false) ∧
    ∀ (window : Interval) (after : PagedSequence α) (demand : PageDemand),
      sequence.requestWindow window = (after, .ok demand) →
        sequence.Serves window after demand := by
  intro sequence
  have htidy : sequence.Tidy := tidy_performAll (tidy_ofPageSize pageSize hpos) haligned
  exact ⟨htidy.pagePrefix, fun page => htidy.incomplete, fun window after demand => htidy.serves⟩

/-- A partial page in the middle of the window is asked for together with the first. -/
theorem serves_window_over_partial_page :
    let sequence := (ofPageSize 4 (by decide) : PagedSequence Nat).performAll
      [.setNumItems 9, .merge ⟨⟨4, 6⟩, [50, 60], 10⟩, .failFetch ⟨0, 4⟩]
    (sequence.requestWindow ⟨3, 7⟩).2 = .ok { pages := [0, 1], ranges := [⟨0, 8⟩] } ∧
      sequence.Serves ⟨3, 7⟩ (sequence.requestWindow ⟨3, 7⟩).1
        { pages := [0, 1], ranges := [⟨0, 8⟩] } := by
  have hrequest : (((ofPageSize 4 (by decide) : PagedSequence Nat).performAll
      [.setNumItems 9, .merge ⟨⟨4, 6⟩, [50, 60], 10⟩, .failFetch ⟨0, 4⟩]).requestWindow
        ⟨3, 7⟩).2 = .ok { pages := [0, 1], ranges := [⟨0, 8⟩] } := by
    decide +kernel
  refine ⟨hrequest, ?_⟩
  have haligned : ∀ act ∈ ([.setNumItems 9, .merge ⟨⟨4, 6⟩, [50, 60], 10⟩, .failFetch ⟨0, 4⟩] :
      List (Act Nat)), act.Aligned 4 := by
    simp [Act.Aligned]
  exact (tidy_and_serves_after_aligned 4 (by decide) _ haligned).2.2 ⟨3, 7⟩ _ _
    (Prod.ext rfl hrequest)

/-- A window all of whose slots are filled can ask for its first page: of the page the
first two items are held, the window shows the first one, and the sequence goes on. -/
theorem held_window_asks :
    ¬ ∀ (acts : List (Act Nat)) (window : Interval) (after : PagedSequence Nat)
        (demand : PageDemand), (∀ act ∈ acts, act.Aligned 4) →
      ((ofPageSize 4 (by decide)).performAll acts).requestWindow window = (after, .ok demand) →
      ((ofPageSize 4 (by decide)).performAll acts).Covers window → demand.isEmpty = true := by
  intro hnothing
  have hrequest : (((ofPageSize 4 (by decide)).performAll
      [.merge ⟨⟨0, 2⟩, [7, 8], 4⟩]).requestWindow ⟨0, 1⟩).2 =
        .ok { pages := [0], ranges := [⟨0, 4⟩] } := by
    decide +kernel
  have hheld : 0 ∈ ((ofPageSize 4 (by decide) : PagedSequence Nat).performAll
      [.merge ⟨⟨0, 2⟩, [7, 8], 4⟩]).items := by
    decide +kernel
  have hempty := hnothing [.merge ⟨⟨0, 2⟩, [7, 8], 4⟩] ⟨0, 1⟩ _ _ (by simp [Act.Aligned])
    (Prod.ext rfl hrequest) (by
      intro index hindex hmissing
      obtain rfl : index = 0 := by simpa [Interval.mem_def] using hindex
      exact absurd hheld hmissing)
  exact absurd hempty (by decide)

end TraceViewer.PagedSequence
