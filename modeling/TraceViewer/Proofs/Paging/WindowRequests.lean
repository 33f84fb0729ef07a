import TraceViewer.Session.Timeline
import TraceViewer.Proofs.Paging.Accounting

/-!
# What a window asks for

Which pages a window asks for is decided from the number of items held of each page.
Two facts make the decision right.

* The pages that are handed out are incomplete and are not being fetched (`Lacks`).
  This needs only the accounts.
* Afterwards every slot of the window that is empty lies in a page that is being
  fetched (`covers_markInFlight`).  This needs that the items held of a page are its
  first ones (`PagePrefix`): the second page of a window is left alone as soon as it
  holds as many items as the window shows of it, and that says nothing of *which*
  items these are.

Every batch that starts with a page keeps the prefixes (`pagePrefix_stored`), and
every request is made of whole pages.  `resolveWindow_spec` sums up what the views
build on.
-/

namespace TraceViewer

namespace PagedSequence

variable {α : Type}

/-! ## Prefixes -/

/-- The items held of each page are the first ones of the page. -/
def PagePrefix (sequence : PagedSequence α) : Prop :=
  ∀ ⦃first second : Nat⦄, first ≤ second →
    Page.ofIndex first sequence.pageSize = Page.ofIndex second sequence.pageSize →
      second ∈ sequence.items → first ∈ sequence.items

theorem pagePrefix_ofPageSize (pageSize : Nat) (hpos : 0 < pageSize) :
    (ofPageSize pageSize hpos : PagedSequence α).PagePrefix := by
  intro first second _ _ hmem
  simp [ofPageSize] at hmem

/-- A batch that starts with a page keeps the prefixes: an index before one of its
items in the same page is an index of the batch as well. -/
theorem pagePrefix_stored {sequence : PagedSequence α} (hfirsts : sequence.PagePrefix)
    {batch : Batch α} (haccepts : sequence.Accepts batch)
    (haligned : batch.range.start % sequence.pageSize = 0) :
    (sequence.stored batch).PagePrefix := by
  intro first second hle hpage hmem
  rw [pageSize_stored] at hpage
  rw [mem_stored haccepts, Interval.mem_def] at hmem ⊢
  rcases hmem with ⟨hstart, hstop⟩ | hmem
  · have hpageStart := Page.start_le_of_aligned haligned hstart hpage.symm
    have hfirst := Page.start_le first sequence.pageSize
    exact Or.inl ⟨by omega, by omega⟩
  · exact Or.inr (hfirsts hle hpage hmem)

/-- Of a predicate that holds of a first part of consecutive numbers, the count says
how long that part is. -/
theorem lt_countP_iff (held : Nat → Bool) (start length offset : Nat)
    (hdown : ∀ first second, start ≤ first → first ≤ second → second < start + length →
      held second = true → held first = true) (hoffset : offset < length) :
    offset < (List.range' start length).countP held ↔ held (start + offset) = true := by
  induction length generalizing start offset with
  | zero => omega
  | succ length ih =>
      rw [List.range'_succ, List.countP_cons]
      by_cases hhead : held start = true
      · rw [if_pos hhead]
        cases offset with
        | zero => simpa using hhead
        | succ offset =>
            have hrest := ih (start + 1) offset
              (fun first second h₁ h₂ h₃ => hdown first second (by omega) h₂ (by omega))
              (by omega)
            rw [Nat.add_lt_add_iff_right, hrest, Nat.add_right_comm, Nat.add_assoc]
      · -- the first number is not in the part, so none is
        have hnone : (List.range' (start + 1) length).countP held = 0 := by
          rw [List.countP_eq_zero]
          intro index hindex hheld
          rw [List.mem_range'_1] at hindex
          exact hhead (hdown start index (Nat.le_refl _) (by omega) (by omega) hheld)
        rw [if_neg hhead, hnone]
        constructor
        · intro habsurd
          omega
        · intro hheld
          exact absurd (hdown start _ (Nat.le_refl _) (by omega) (by omega) hheld) hhead

/-- In a prefix the number of items held says which ones are held. -/
theorem PagePrefix.mem_iff {sequence : PagedSequence α} (hfirsts : sequence.PagePrefix)
    {index page : Nat} (hpage : Page.ofIndex index sequence.pageSize = page) :
    index ∈ sequence.items ↔ index < page * sequence.pageSize + sequence.heldIn page := by
  have hpos := sequence.pageSize_pos
  obtain ⟨hstart, hstop⟩ := (Page.ofIndex_eq_iff hpos).mp hpage
  have hcount := lt_countP_iff (fun other => decide (other ∈ sequence.items))
    (page * sequence.pageSize) sequence.pageSize (index - page * sequence.pageSize)
    (by
      intro first second h₁ h₂ h₃ hheld
      rw [decide_eq_true_eq] at hheld ⊢
      refine hfirsts h₂ ?_ hheld
      rw [(Page.ofIndex_eq_iff hpos).mpr ⟨h₁, by omega⟩,
        (Page.ofIndex_eq_iff hpos).mpr ⟨by omega, h₃⟩])
    (by omega)
  rw [Nat.add_sub_cancel' hstart, decide_eq_true_eq] at hcount
  rw [← hcount, heldIn]
  omega

/-! ## Missing pages -/

/-- The first page of a window is missing exactly when it is incomplete. -/
theorem Accounted.firstIsMissing_eq {sequence : PagedSequence α} (hacc : sequence.Accounted)
    {page : Nat} (hpage : page * sequence.pageSize < sequence.numItems) :
    Page.firstIsMissing page sequence.pageSize sequence.numItems sequence.loadedSizes =
      !sequence.isPageComplete page := by
  have hpos := sequence.pageSize_pos
  rw [isPageComplete, hacc.getD_loadedSizes, Page.firstIsMissing, hacc.loadedSizes,
    Bool.eq_iff_iff]
  simp only [Bool.not_eq_true', Bool.and_eq_false_iff, decide_eq_false_iff_not]
  unfold Page.capacity
  by_cases hzero : sequence.heldIn page = 0
  · simp only [if_pos hzero, true_iff]
    omega
  · simp only [if_neg hzero, Bool.and_eq_true, decide_eq_true_eq]
    omega

/-- A second page that is missing is incomplete: the window does not pass the total. -/
theorem Accounted.isPageComplete_eq_false {sequence : PagedSequence α}
    (hacc : sequence.Accounted) {page stop : Nat}
    (hstop : stop ≤ page * sequence.pageSize + sequence.pageSize)
    (htotal : stop ≤ sequence.numItems)
    (hmissing : Page.secondIsMissing page sequence.pageSize stop sequence.loadedSizes = true) :
    sequence.isPageComplete page = false := by
  rw [isPageComplete, hacc.getD_loadedSizes]
  rw [Page.secondIsMissing, hacc.loadedSizes] at hmissing
  simp only [Bool.and_eq_false_iff, decide_eq_false_iff_not]
  unfold Page.capacity
  by_cases hzero : sequence.heldIn page = 0
  · omega
  · rw [if_neg hzero] at hmissing
    simp only [decide_eq_true_eq] at hmissing
    omega

/-- A second page that is not missing holds what the window shows of it. -/
theorem Accounted.mem_of_not_secondIsMissing {sequence : PagedSequence α}
    (hacc : sequence.Accounted) (hfirsts : sequence.PagePrefix) {page stop index : Nat}
    (hmissing : Page.secondIsMissing page sequence.pageSize stop sequence.loadedSizes = false)
    (hpage : Page.ofIndex index sequence.pageSize = page) (hindex : index < stop) :
    index ∈ sequence.items := by
  rw [Page.secondIsMissing, hacc.loadedSizes] at hmissing
  rw [hfirsts.mem_iff hpage]
  by_cases hzero : sequence.heldIn page = 0
  · simp [hzero] at hmissing
  · rw [if_neg hzero] at hmissing
    simp at hmissing
    omega

/-! ## Demands -/

/-- The pages of a demand are new: each lies in the sequence, is not complete and is not
being fetched, and the ranges cover them. -/
structure Lacks (sequence : PagedSequence α) (demand : PageDemand) : Prop where
  ranges_eq : demand.ranges = Page.coalesce sequence.pageSize sequence.numItems demand.pages
  ascending : demand.pages.Pairwise (· < ·)
  lt_numItems : ∀ page ∈ demand.pages, page * sequence.pageSize < sequence.numItems
  not_inFlight : ∀ page ∈ demand.pages, sequence.isInFlight page = false
  not_complete : ∀ page ∈ demand.pages, sequence.isPageComplete page = false

theorem lacks_empty (sequence : PagedSequence α) : sequence.Lacks {} where
  ranges_eq := by simp
  ascending := List.Pairwise.nil
  lt_numItems := by simp
  not_inFlight := by simp
  not_complete := by simp

/-- A window that a sequence answers for: it lies in the sequence and is not wider than
a page. -/
structure Admits (sequence : PagedSequence α) (window : Interval) : Prop where
  lt : window.start < window.stop
  stop_le : window.stop ≤ sequence.numItems
  length_le : window.length ≤ sequence.pageSize

namespace Admits

variable {sequence : PagedSequence α} {window : Interval}

/-- A page that shows in a window is its first page or its last one. -/
theorem page_eq (hadmits : sequence.Admits window) {index : Nat} (hindex : index ∈ window) :
    Page.ofIndex index sequence.pageSize = Page.ofIndex window.start sequence.pageSize ∨
      Page.ofIndex index sequence.pageSize =
        Page.ofIndex (window.stop - 1) sequence.pageSize := by
  have hpos := sequence.pageSize_pos
  have hlength := hadmits.length_le
  have hlt := hadmits.lt
  rw [Interval.mem_def] at hindex
  rw [Interval.length] at hlength
  have hfirst : Page.ofIndex window.start sequence.pageSize ≤
      Page.ofIndex index sequence.pageSize := Nat.div_le_div_right hindex.1
  have hlast : Page.ofIndex index sequence.pageSize ≤
      Page.ofIndex (window.stop - 1) sequence.pageSize := Nat.div_le_div_right (by omega)
  -- the window is not wider than a page, so no page lies between the two
  have hnear : Page.ofIndex (window.stop - 1) sequence.pageSize ≤
      Page.ofIndex window.start sequence.pageSize + 1 := by
    rw [Page.ofIndex, Page.ofIndex, ← Nat.add_div_right _ hpos]
    exact Nat.div_le_div_right (by omega)
  omega

theorem missing_eq (hadmits : sequence.Admits window) :
    Page.missing window sequence.pageSize sequence.numItems sequence.loadedSizes =
      .ok (Page.missingOf window sequence.pageSize sequence.numItems sequence.loadedSizes) := by
  have hpos := sequence.pageSize_pos
  have hlt := hadmits.lt
  have hstop := hadmits.stop_le
  have hlength := hadmits.length_le
  rw [Page.missing, if_neg (by omega), if_neg (by omega), if_neg (by omega), if_neg (by omega),
    if_neg (by omega)]

/-- Both pages of a window lie in the sequence, and the window ends in the second. -/
theorem page_bounds (hadmits : sequence.Admits window) :
    Page.ofIndex window.start sequence.pageSize * sequence.pageSize < sequence.numItems ∧
      Page.ofIndex (window.stop - 1) sequence.pageSize * sequence.pageSize < window.stop ∧
      window.stop ≤ Page.ofIndex (window.stop - 1) sequence.pageSize * sequence.pageSize +
        sequence.pageSize := by
  have hlt := hadmits.lt
  have hstop := hadmits.stop_le
  have hfirst := Page.start_le window.start sequence.pageSize
  have hlast := Page.start_le (window.stop - 1) sequence.pageSize
  have hend := Page.lt_stop sequence.pageSize_pos (window.stop - 1)
  omega

theorem mem_missingOf (hadmits : sequence.Admits window) (hacc : sequence.Accounted) {page : Nat} :
    page ∈ Page.missingOf window sequence.pageSize sequence.numItems sequence.loadedSizes ↔
      page = Page.ofIndex window.start sequence.pageSize ∧
          sequence.isPageComplete page = false ∨
        page = Page.ofIndex (window.stop - 1) sequence.pageSize ∧
          page ≠ Page.ofIndex window.start sequence.pageSize ∧
          Page.secondIsMissing page sequence.pageSize window.stop sequence.loadedSizes = true := by
  rw [Page.missingOf, List.mem_append, hacc.firstIsMissing_eq hadmits.page_bounds.1]
  refine or_congr ?_ ?_
  · split_ifs with hmissing
    · rw [List.mem_singleton]
      constructor
      · rintro rfl
        exact ⟨rfl, by simpa using hmissing⟩
      · exact And.left
    · simp only [List.not_mem_nil, false_iff, not_and]
      rintro rfl
      simpa using hmissing
  · split_ifs with hmissing
    · rw [Bool.and_eq_true, decide_eq_true_eq] at hmissing
      rw [List.mem_singleton]
      constructor
      · rintro rfl
        exact ⟨rfl, hmissing⟩
      · exact And.left
    · rw [Bool.and_eq_true, decide_eq_true_eq] at hmissing
      simp only [List.not_mem_nil, false_iff, not_and]
      rintro rfl hne hsecond
      exact hmissing ⟨hne, hsecond⟩

theorem ascending_missingOf (hadmits : sequence.Admits window) :
    (Page.missingOf window sequence.pageSize sequence.numItems
      sequence.loadedSizes).Pairwise (· < ·) := by
  have hle : Page.ofIndex window.start sequence.pageSize ≤
      Page.ofIndex (window.stop - 1) sequence.pageSize := by
    have := hadmits.lt
    exact Nat.div_le_div_right (by omega)
  rw [Page.missingOf]
  refine List.pairwise_append.mpr ⟨?_, ?_, ?_⟩
  · split_ifs <;> simp
  · split_ifs <;> simp
  · intro first hfirst second hsecond
    split_ifs at hfirst hsecond with hone htwo
    · rw [Bool.and_eq_true, decide_eq_true_eq] at htwo
      rw [List.mem_singleton] at hfirst hsecond
      omega
    all_goals simp_all

end Admits

/-- The demand of a window: the missing pages that are not being fetched. -/
def demandOf (sequence : PagedSequence α) (window : Interval) : PageDemand :=
  let pages := (Page.missingOf window sequence.pageSize sequence.numItems
    sequence.loadedSizes).filter fun page => !sequence.isInFlight page
  { pages, ranges := Page.coalesce sequence.pageSize sequence.numItems pages }

theorem requestWindow_eq {sequence : PagedSequence α} {window : Interval}
    (hadmits : sequence.Admits window) :
    sequence.requestWindow window =
      (sequence.markInFlight (sequence.demandOf window).pages,
        .ok (sequence.demandOf window)) := by
  rw [requestWindow, hadmits.missing_eq]
  rfl

theorem mem_demandOf {sequence : PagedSequence α} (hacc : sequence.Accounted) {window : Interval}
    (hadmits : sequence.Admits window) {page : Nat} :
    page ∈ (sequence.demandOf window).pages ↔
      sequence.isInFlight page = false ∧
        (page = Page.ofIndex window.start sequence.pageSize ∧
            sequence.isPageComplete page = false ∨
          page = Page.ofIndex (window.stop - 1) sequence.pageSize ∧
            page ≠ Page.ofIndex window.start sequence.pageSize ∧
            Page.secondIsMissing page sequence.pageSize window.stop
              sequence.loadedSizes = true) := by
  rw [demandOf, List.mem_filter, hadmits.mem_missingOf hacc, Bool.not_eq_true', and_comm]

theorem lacks_demandOf {sequence : PagedSequence α} (hacc : sequence.Accounted)
    {window : Interval} (hadmits : sequence.Admits window) :
    sequence.Lacks (sequence.demandOf window) := by
  obtain ⟨hfirst, hlast, hend⟩ := hadmits.page_bounds
  have hstop := hadmits.stop_le
  exact
    { ranges_eq := rfl
      ascending := hadmits.ascending_missingOf.filter _
      lt_numItems := by
        intro page hpage
        rcases ((mem_demandOf hacc hadmits).mp hpage).2 with ⟨rfl, _⟩ | ⟨rfl, _⟩
        · exact hfirst
        · omega
      not_inFlight := fun page hpage => ((mem_demandOf hacc hadmits).mp hpage).1
      not_complete := by
        intro page hpage
        rcases ((mem_demandOf hacc hadmits).mp hpage).2 with ⟨_, hmissing⟩ | ⟨rfl, _, hmissing⟩
        · exact hmissing
        · exact hacc.isPageComplete_eq_false hend hstop hmissing }

/-- Every slot of a range is filled, or its page is being fetched. -/
def Covers (sequence : PagedSequence α) (range : Interval) : Prop :=
  ∀ index ∈ range, index ∉ sequence.items →
    sequence.isInFlight (Page.ofIndex index sequence.pageSize) = true

/-- Every slot of a window shows: there are as many slots as the window is long, and each
has the item that is held of its index. -/
structure ShowsAll (sequence : PagedSequence α) (window : Interval) : Prop where
  length : (sequence.visibleSlice window.start window.length).length = window.length
  lookup : ∀ offset < window.length, ∃ item,
    sequence.items[window.start + offset]? = some item ∧
      (sequence.visibleSlice window.start window.length)[offset]? = some (some item)

theorem showsAll_of_forall_mem {sequence : PagedSequence α} {window : Interval}
    (hheld : ∀ index ∈ window, index ∈ sequence.items) : sequence.ShowsAll window where
  length := by rw [visibleSlice, List.length_map, List.length_range']
  lookup := by
    intro offset hlt
    have hshown : window.start + offset ∈ window := by
      rw [Interval.length] at hlt
      exact Interval.mem_def.mpr ⟨by omega, by omega⟩
    obtain ⟨item, hitem⟩ := Option.isSome_iff_exists.mp
      (Std.ExtTreeMap.mem_iff_isSome_getElem?.mp (hheld _ hshown))
    refine ⟨item, hitem, ?_⟩
    rw [visibleSlice, List.getElem?_map, List.getElem?_range' hlt, Nat.one_mul, Option.map_some,
      hitem]

theorem isInFlight_markInFlight {sequence : PagedSequence α} {pages : List Nat} {page : Nat} :
    (sequence.markInFlight pages).isInFlight page = true ↔
      page ∈ pages ∨ sequence.isInFlight page = true := by
  simp only [isInFlight_iff, getElem?_markInFlight]
  by_cases hmem : page ∈ pages <;> simp [hmem]

/-- After a window was asked for, each of its empty slots lies in a page that is being
fetched. -/
theorem covers_markInFlight {sequence : PagedSequence α} (hacc : sequence.Accounted)
    (hfirsts : sequence.PagePrefix) {window : Interval} (hadmits : sequence.Admits window) :
    (sequence.markInFlight (sequence.demandOf window).pages).Covers window := by
  intro index hindex hempty
  change index ∉ sequence.items at hempty
  change (sequence.markInFlight _).isInFlight (Page.ofIndex index sequence.pageSize) = true
  have hstop := hadmits.stop_le
  have hbounds := Interval.mem_def.mp hindex
  rw [isInFlight_markInFlight, mem_demandOf hacc hadmits]
  -- were the page not being fetched after asking, it would be neither of the two pages
  by_contra hnot
  simp only [not_or, not_and, Bool.not_eq_true] at hnot
  obtain ⟨hidle, hmarked⟩ := hnot
  obtain ⟨hfirst, hsecond⟩ := hidle hmarked
  have hcomplete : sequence.isPageComplete (Page.ofIndex index sequence.pageSize) = false := by
    refine Bool.eq_false_iff.mpr fun hcomplete => hempty ?_
    refine (hacc.isPageComplete_iff.mp hcomplete).2 index ?_
    exact (Page.mem_span sequence.pageSize_pos).mpr ⟨rfl, by omega⟩
  rcases hadmits.page_eq hindex with hpage | hpage
  · exact absurd hcomplete (by simpa using hfirst hpage)
  · by_cases hsame : Page.ofIndex index sequence.pageSize =
        Page.ofIndex window.start sequence.pageSize
    · exact absurd hcomplete (by simpa using hfirst hsame)
    · exact hempty (hacc.mem_of_not_secondIsMissing hfirsts (hsecond hpage hsame) rfl hbounds.2)

end PagedSequence

namespace PagedView

variable {α : Type}

/-- The window of a view is not wider than a page. -/
def Fits (view : PagedView α) : Prop := view.window.displayCount ≤ view.sequence.pageSize

theorem mem_visibleRange {view : PagedView α} {index : Nat} :
    index ∈ view.visibleRange ↔
      view.window.scrollBegin ≤ index ∧
        index < min (view.window.scrollBegin + view.window.displayCount) view.numItems := by
  rw [Interval.mem_def, visibleRange, ScrollWindow.visibleRange]
  dsimp only
  omega

theorem admits_visibleRange {view : PagedView α} (hfits : view.Fits)
    (hshown : ¬ view.visibleRange.isEmpty = true) :
    view.sequence.Admits view.visibleRange := by
  rw [Interval.isEmpty, decide_eq_true_eq] at hshown
  unfold Fits at hfits
  refine ⟨by omega, ?_, ?_⟩ <;>
    simp only [visibleRange, ScrollWindow.visibleRange, Interval.length, numItems] <;> omega

/-- What asking for the window does: it never fails, marks the pages that it hands out,
and leaves no visible slot empty whose page is not being fetched. -/
theorem resolveWindow_spec (view : PagedView α) (hacc : view.sequence.Accounted)
    (hfits : view.Fits) :
    ∃ demand, view.resolveWindow =
        ({ view with sequence := view.sequence.markInFlight demand.pages }, .ok demand) ∧
      view.sequence.Lacks demand ∧
      (view.sequence.PagePrefix →
        (view.sequence.markInFlight demand.pages).Covers view.visibleRange) := by
  by_cases hshown : view.visibleRange.isEmpty = true
  · -- nothing is visible, so nothing is asked for
    refine ⟨{}, ?_, view.sequence.lacks_empty, ?_⟩
    · rw [resolveWindow, if_pos hshown]
      rfl
    · intro _ index hindex
      rw [Interval.isEmpty, decide_eq_true_eq] at hshown
      rw [Interval.mem_def] at hindex
      omega
  · have hadmits := admits_visibleRange hfits hshown
    refine ⟨view.sequence.demandOf view.visibleRange, ?_,
      PagedSequence.lacks_demandOf hacc hadmits,
      fun hfirsts => PagedSequence.covers_markInFlight hacc hfirsts hadmits⟩
    rw [resolveWindow, if_neg hshown, PagedSequence.requestWindow_eq hadmits]

/-! ## Operations that ask -/

/-- What an operation leaves that asks for the window, perhaps at a larger total: the
pages of the demand are marked, and the items are those from before. -/
structure Asks (before after : PagedView α) (demand : PageDemand) : Prop where
  sequence_eq : after.sequence =
    { before.sequence with numItems := after.numItems }.markInFlight demand.pages
  numItems_le : before.numItems ≤ after.numItems
  displayCount_eq : after.window.displayCount = before.window.displayCount
  lacks : { before.sequence with numItems := after.numItems }.Lacks demand

/-- An operation asked and left no visible slot empty whose page is not being fetched. -/
def Resolved (before after : PagedView α) (demand : PageDemand) : Prop :=
  before.Asks after demand ∧
    (before.sequence.PagePrefix → after.sequence.Covers after.visibleRange)

theorem asks_self (view : PagedView α) : view.Asks view {} where
  sequence_eq := rfl
  numItems_le := Nat.le_refl _
  displayCount_eq := rfl
  lacks := view.sequence.lacks_empty

/-- Asking for the window after it was moved. -/
theorem moveTo_some {view : PagedView α} (hacc : view.sequence.Accounted) (hfits : view.Fits)
    {window : ScrollWindow} (hcount : window.displayCount = view.window.displayCount) :
    ∃ after demand, view.moveTo (some window) = (after, .ok demand) ∧
      view.Resolved after demand ∧ after.numItems = view.numItems ∧ after.window = window := by
  obtain ⟨demand, hresolve, hlacks, hcovers⟩ :=
    resolveWindow_spec { view with window } hacc (Nat.le_trans (Nat.le_of_eq hcount) hfits)
  exact ⟨_, demand, hresolve, ⟨⟨rfl, Nat.le_refl _, hcount, hlacks⟩, hcovers⟩, rfl, rfl⟩

/-- Asking for the window at a total that is not below the present one. -/
theorem setNumItems_spec {view : PagedView α} (hacc : view.sequence.Accounted)
    (hfits : view.Fits) {total : Nat} (htotal : view.numItems ≤ total) :
    ∃ after demand, view.setNumItems total = (after, .ok demand) ∧
      view.Resolved after demand ∧ after.numItems = total ∧ after.window = view.window := by
  let grown : PagedSequence α := { view.sequence with numItems := total }
  obtain ⟨demand, hresolve, hlacks, hcovers⟩ :=
    resolveWindow_spec { view with sequence := grown }
      (PagedSequence.accounted_withNumItems hacc htotal) hfits
  refine ⟨{ view with sequence := grown.markInFlight demand.pages }, demand, ?_,
    ⟨⟨rfl, htotal, rfl, hlacks⟩, hcovers⟩, rfl, rfl⟩
  have hkept : ¬ total < view.sequence.numItems := Nat.not_lt.mpr htotal
  rw [setNumItems, PagedSequence.setNumItems, if_neg hkept]
  exact hresolve

theorem setNumItems_of_lt {view : PagedView α} {total : Nat} (htotal : total < view.numItems) :
    view.setNumItems total =
      (view, .error (.consistencyViolation view.numItems total)) := by
  rw [setNumItems, PagedSequence.setNumItems]
  rw [numItems] at htotal
  rw [if_pos htotal]
  rfl

section Asked

variable {before after : PagedView α} {demand : PageDemand}

theorem Asks.pageSize_eq (hasks : before.Asks after demand) :
    after.sequence.pageSize = before.sequence.pageSize := by
  rw [hasks.sequence_eq]
  rfl

theorem Asks.items_eq (hasks : before.Asks after demand) :
    after.sequence.items = before.sequence.items := by
  rw [hasks.sequence_eq]
  rfl

theorem Asks.fits (hasks : before.Asks after demand) (hfits : before.Fits) : after.Fits := by
  rw [Fits, hasks.displayCount_eq, hasks.pageSize_eq]
  exact hfits

theorem Asks.accounted (hasks : before.Asks after demand) (hacc : before.sequence.Accounted) :
    after.sequence.Accounted := by
  rw [hasks.sequence_eq]
  exact PagedSequence.accounted_markInFlight
    (PagedSequence.accounted_withNumItems hacc hasks.numItems_le) hasks.lacks.lt_numItems

theorem Asks.pagePrefix (hasks : before.Asks after demand) (hfirsts : before.sequence.PagePrefix) :
    after.sequence.PagePrefix := by
  unfold PagedSequence.PagePrefix
  rw [hasks.pageSize_eq, hasks.items_eq]
  exact hfirsts

/-- The marks after asking: the pages of the demand are marked up to the end of their
span, and the other marks are as before. -/
theorem Asks.getElem?_inFlight (hasks : before.Asks after demand) (page : Nat) :
    after.sequence.inFlight[page]? =
      if page ∈ demand.pages then
        some (Page.span page before.sequence.pageSize after.numItems).stop
      else before.sequence.inFlight[page]? := by
  rw [hasks.sequence_eq, PagedSequence.getElem?_markInFlight]

/-- The ranges of a demand are ranges of whole pages. -/
theorem Asks.fetchRange (hasks : before.Asks after demand) :
    ∀ range ∈ demand.ranges,
      Page.FetchRange before.sequence.pageSize after.numItems demand.pages range := by
  rw [hasks.lacks.ranges_eq]
  exact Page.fetchRange_of_mem_coalesce before.sequence.pageSize_pos demand.pages

/-- The ranges of a demand cover exactly the existing items of its pages. -/
theorem Asks.mem_ranges (hasks : before.Asks after demand) (index : Nat) :
    (∃ range ∈ demand.ranges, index ∈ range) ↔
      Page.ofIndex index before.sequence.pageSize ∈ demand.pages ∧ index < after.numItems := by
  rw [hasks.lacks.ranges_eq]
  exact Page.mem_coalesce before.sequence.pageSize_pos demand.pages index

/-- Different ranges of a demand have no item in common. -/
theorem Asks.ranges_apart (hasks : before.Asks after demand) {first second : Nat}
    {one two : Interval} (hone : demand.ranges[first]? = some one)
    (htwo : demand.ranges[second]? = some two) {index : Nat} (hindex : index ∈ one)
    (hindex' : index ∈ two) : first = second := by
  have hascending : demand.ranges.Pairwise fun first second => first.stop < second.start := by
    rw [hasks.lacks.ranges_eq]
    exact Page.coalesce_ascending before.sequence.pageSize_pos hasks.lacks.ascending
  rw [List.pairwise_iff_getElem] at hascending
  obtain ⟨hfirst, rfl⟩ := List.getElem?_eq_some_iff.mp hone
  obtain ⟨hsecond, rfl⟩ := List.getElem?_eq_some_iff.mp htwo
  rw [Interval.mem_def] at hindex hindex'
  rcases Nat.lt_trichotomy first second with hlt | heq | hlt
  · have := hascending first second hfirst hsecond hlt
    omega
  · exact heq
  · have := hascending second first hsecond hfirst hlt
    omega

end Asked

end PagedView

namespace Timeline

variable {α : Type} {view : PagedView α}

/-- A movement of the window is refused or changes nothing, or it asks at the total that
the view has. -/
theorem moveView_spec (hacc : view.sequence.Accounted) (hfits : view.Fits) (step : ScrollStep) :
    (∃ error, moveView view step = (view, .error error)) ∨
      moveView view step = (view, .ok {}) ∨
      ∃ after demand, moveView view step = (after, .ok demand) ∧
        view.Resolved after demand ∧ after.numItems = view.numItems := by
  -- all steps move to a window of the same width, if they move at all
  have hmove : ∀ target : Option ScrollWindow,
      (∀ window ∈ target, window.displayCount = view.window.displayCount) →
        view.moveTo target = (view, .ok {}) ∨
        ∃ after demand, view.moveTo target = (after, .ok demand) ∧
          view.Resolved after demand ∧ after.numItems = view.numItems := by
    intro target htarget
    cases target with
    | none => exact Or.inl rfl
    | some window =>
        obtain ⟨after, demand, hmoved, hresolved, htotal, _⟩ :=
          PagedView.moveTo_some hacc hfits (htarget window rfl)
        exact Or.inr ⟨after, demand, hmoved, hresolved, htotal⟩
  cases step with
  | left =>
      refine Or.inr (hmove _ ?_)
      unfold ScrollWindow.scrollLeft?
      split_ifs <;> simp
  | right =>
      refine Or.inr (hmove _ ?_)
      unfold ScrollWindow.scrollRight?
      split_ifs <;> simp
  | toIndex index =>
      by_cases hpast : view.window.maxScrollBegin view.numItems < index
      · refine Or.inl ⟨.outOfRange index (view.window.maxScrollBegin view.numItems), ?_⟩
        rw [moveView, PagedView.scrollTo, ScrollWindow.scrollTo, if_pos hpast]
      · have hscroll : moveView view (.toIndex index) =
            view.moveTo (some { view.window with scrollBegin := index }) := by
          rw [moveView, PagedView.scrollTo, ScrollWindow.scrollTo, if_neg hpast]
        rw [hscroll]
        exact Or.inr (hmove (some { view.window with scrollBegin := index }) (by simp))
  | recenter index =>
      exact Or.inr (hmove (some (view.window.recenter index)) (by simp [ScrollWindow.recenter]))

end Timeline

end TraceViewer
