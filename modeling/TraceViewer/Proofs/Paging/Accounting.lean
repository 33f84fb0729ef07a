import Mathlib.Tactic.Common
import TraceViewer.PagedSequence
import TraceViewer.Proofs.Paging.PageArithmetic

/-!
# The accounts of a paged sequence

A paged sequence counts the items of each page instead of looking at them.  This file
ties the counts to the items: `Accounted` says that no item lies past the total, that
the size kept for a page is the number of its items held, and that a mark ends inside
its page and inside the sequence.

Every operation keeps the accounts, whatever it is given (`accounted_merge` asks
nothing of the batch).  What they buy is `isPageComplete_iff`: comparing two numbers
decides whether every existing item of a page is held.  The argument is a count.  No
item lies past the total, so the items held of a page all lie among the first
`capacity` indices of the page, and as many as that can only be all of them.
-/

namespace TraceViewer.PagedSequence

variable {α : Type}

/-- The number of items held of a page. -/
def heldIn (sequence : PagedSequence α) (page : Nat) : Nat :=
  (List.range' (page * sequence.pageSize) sequence.pageSize).countP
    fun index => index ∈ sequence.items

/-- The counts of a sequence agree with its items, and its marks lie in their pages. -/
structure Accounted (sequence : PagedSequence α) : Prop where
  lt_numItems : ∀ index ∈ sequence.items, index < sequence.numItems
  loadedSizes : ∀ page, sequence.loadedSizes[page]? =
    if sequence.heldIn page = 0 then none else some (sequence.heldIn page)
  lt_mark : ∀ {page requestedEnd : Nat}, sequence.inFlight[page]? = some requestedEnd →
    page * sequence.pageSize < requestedEnd
  mark_le : ∀ {page requestedEnd : Nat}, sequence.inFlight[page]? = some requestedEnd →
    requestedEnd ≤ min (page * sequence.pageSize + sequence.pageSize) sequence.numItems

theorem isInFlight_iff {sequence : PagedSequence α} {page : Nat} :
    sequence.isInFlight page = true ↔
      ∃ requestedEnd, sequence.inFlight[page]? = some requestedEnd := by
  rw [isInFlight, decide_eq_true_eq, Std.ExtTreeMap.mem_iff_isSome_getElem?,
    Option.isSome_iff_exists]

theorem accounted_ofPageSize (pageSize : Nat) (hpos : 0 < pageSize) :
    (ofPageSize pageSize hpos : PagedSequence α).Accounted where
  lt_numItems := by simp [ofPageSize]
  loadedSizes := by simp [ofPageSize, heldIn]
  lt_mark := by simp [ofPageSize]
  mark_le := by simp [ofPageSize]

/-! ## A page is complete when all its items are held -/

/-- The size kept for a page is the number of its items held. -/
theorem Accounted.getD_loadedSizes {sequence : PagedSequence α} (hacc : sequence.Accounted)
    (page : Nat) : sequence.loadedSizes[page]?.getD 0 = sequence.heldIn page := by
  rw [hacc.loadedSizes]
  split_ifs with hzero
  · rw [hzero, Option.getD_none]
  · rw [Option.getD_some]

/-- No item is held past the total, so the items of a page are found among the first
`capacity` of its indices. -/
theorem Accounted.heldIn_eq {sequence : PagedSequence α} (hacc : sequence.Accounted)
    (page : Nat) : sequence.heldIn page =
      (List.range' (page * sequence.pageSize)
        (Page.capacity page sequence.pageSize sequence.numItems)).countP
          fun index => index ∈ sequence.items := by
  have hcapacity : Page.capacity page sequence.pageSize sequence.numItems ≤ sequence.pageSize :=
    Nat.min_le_right _ _
  have hsplit : List.range' (page * sequence.pageSize) sequence.pageSize =
      List.range' (page * sequence.pageSize)
          (Page.capacity page sequence.pageSize sequence.numItems) ++
        List.range' (page * sequence.pageSize +
            Page.capacity page sequence.pageSize sequence.numItems)
          (sequence.pageSize - Page.capacity page sequence.pageSize sequence.numItems) := by
    rw [List.range'_append_1, Nat.add_sub_cancel' hcapacity]
  unfold heldIn
  rw [hsplit, List.countP_append, Nat.add_eq_left, List.countP_eq_zero]
  intro index hindex
  rw [List.mem_range'_1] at hindex
  rw [decide_eq_true_eq]
  intro hmem
  -- past the capacity of the last page the sequence has ended
  have := hacc.lt_numItems index hmem
  unfold Page.capacity at hindex
  omega

/-- A page is complete exactly when it has a place in the sequence and every item in
its span is held. -/
theorem Accounted.isPageComplete_iff {sequence : PagedSequence α} (hacc : sequence.Accounted)
    {page : Nat} :
    sequence.isPageComplete page = true ↔
      page * sequence.pageSize < sequence.numItems ∧
        ∀ index ∈ Page.span page sequence.pageSize sequence.numItems, index ∈ sequence.items := by
  have hpos := sequence.pageSize_pos
  have hspan : ∀ index, index ∈ Page.span page sequence.pageSize sequence.numItems ↔
      index ∈ List.range' (page * sequence.pageSize)
        (Page.capacity page sequence.pageSize sequence.numItems) := by
    intro index
    rw [List.mem_range'_1, Interval.mem_def]
    simp only [Page.span, Page.capacity]
    omega
  have hplace : 0 < Page.capacity page sequence.pageSize sequence.numItems ↔
      page * sequence.pageSize < sequence.numItems := by
    unfold Page.capacity
    omega
  simp only [isPageComplete, hacc.getD_loadedSizes, Bool.and_eq_true, decide_eq_true_eq, hplace,
    hspan, hacc.heldIn_eq]
  -- the count reaches the capacity exactly when every index is counted
  have hfull := List.countP_eq_length (p := fun index => decide (index ∈ sequence.items))
    (l := List.range' (page * sequence.pageSize)
      (Page.capacity page sequence.pageSize sequence.numItems))
  have hle := List.countP_le_length (p := fun index => decide (index ∈ sequence.items))
    (l := List.range' (page * sequence.pageSize)
      (Page.capacity page sequence.pageSize sequence.numItems))
  simp only [List.length_range', decide_eq_true_eq] at hfull hle
  rw [← hfull, and_comm]
  constructor <;> rintro ⟨hlt, heq⟩ <;> exact ⟨hlt, by omega⟩

/-! ## Holding items -/

/-- Counting one more index: the count of a list without repetitions grows by one when
the index is in the list. -/
theorem countP_insert (indices : List Nat) (hnodup : indices.Nodup) (held : Nat → Bool)
    {new : Nat} (hnew : held new = false) :
    indices.countP (fun index => decide (new = index) || held index) =
      indices.countP held + if new ∈ indices then 1 else 0 := by
  induction indices with
  | nil => rfl
  | cons index rest ih =>
      obtain ⟨hnotin, hrest⟩ := List.nodup_cons.mp hnodup
      rw [List.countP_cons, List.countP_cons, ih hrest]
      by_cases heq : new = index
      · subst heq
        simp [hnew, hnotin]
      · simp only [heq, decide_false, Bool.false_or, List.mem_cons, false_or]
        omega

theorem mem_put {sequence : PagedSequence α} {index : Nat} {item : α} {other : Nat} :
    other ∈ (sequence.put index item).items ↔ index = other ∨ other ∈ sequence.items := by
  simp [put, Std.ExtTreeMap.mem_insert]

/-- An item that was not held before is counted in its page. -/
theorem heldIn_put (sequence : PagedSequence α) (index : Nat) (item : α) (page : Nat) :
    (sequence.put index item).heldIn page =
      sequence.heldIn page +
        if index ∉ sequence.items ∧ Page.ofIndex index sequence.pageSize = page then 1 else 0 := by
  have hpage : index ∈ List.range' (page * sequence.pageSize) sequence.pageSize ↔
      Page.ofIndex index sequence.pageSize = page := by
    rw [List.mem_range'_1, Page.ofIndex_eq_iff sequence.pageSize_pos]
  have hcount : (sequence.put index item).heldIn page =
      (List.range' (page * sequence.pageSize) sequence.pageSize).countP
        fun other => decide (index = other) || decide (other ∈ sequence.items) := by
    unfold heldIn
    congr 1
    funext other
    rw [← Bool.decide_or]
    exact decide_eq_decide.mpr mem_put
  rw [hcount]
  by_cases hmem : index ∈ sequence.items
  · -- the item was held before, so the predicate that counts is the same
    have hsame : (fun other => decide (index = other) || decide (other ∈ sequence.items)) =
        fun other => decide (other ∈ sequence.items) := by
      funext other
      by_cases heq : index = other
      · subst heq
        simp [hmem]
      · simp [heq]
    rw [hsame]
    simp [hmem, heldIn]
  · have hnodup : (List.range' (page * sequence.pageSize) sequence.pageSize).Nodup :=
      List.nodup_range'
    rw [countP_insert _ hnodup _ (by simpa using hmem)]
    simp only [hpage, hmem, not_false_eq_true, true_and, heldIn]

theorem accounted_put {sequence : PagedSequence α} (hacc : sequence.Accounted) {index : Nat}
    (hindex : index < sequence.numItems) (item : α) : (sequence.put index item).Accounted where
  lt_numItems := by
    intro other hother
    rcases mem_put.mp hother with rfl | hother
    · exact hindex
    · exact hacc.lt_numItems other hother
  loadedSizes := by
    intro page
    rw [heldIn_put]
    -- an item that is replaced is counted already
    by_cases hmem : index ∈ sequence.items
    · simpa [put, hmem] using hacc.loadedSizes page
    · by_cases hpage : Page.ofIndex index sequence.pageSize = page
      · subst hpage
        simp [put, hmem, hacc.getD_loadedSizes]
      · simpa [put, hmem, hpage, Std.ExtTreeMap.getElem?_insert] using hacc.loadedSizes page
  lt_mark := hacc.lt_mark
  mark_le := hacc.mark_le

/-- Putting items changes the items and the loaded sizes, and nothing else. -/
theorem putAll_eq (sequence : PagedSequence α) (start : Nat) (items : List α) :
    sequence.putAll start items =
      { sequence with
        items := (sequence.putAll start items).items
        loadedSizes := (sequence.putAll start items).loadedSizes } := by
  induction items generalizing sequence start with
  | nil => rfl
  | cons item rest ih => exact ih (sequence.put start item) (start + 1)

theorem mem_putAll {sequence : PagedSequence α} {start : Nat} {items : List α} {index : Nat} :
    index ∈ (sequence.putAll start items).items ↔
      start ≤ index ∧ index < start + items.length ∨ index ∈ sequence.items := by
  induction items generalizing sequence start with
  | nil =>
      have hempty : ¬ (start ≤ index ∧ index < start + ([] : List α).length) := by
        rw [List.length_nil]
        omega
      rw [putAll, or_iff_right hempty]
  | cons item rest ih =>
      rw [putAll, ih, mem_put, List.length_cons, ← or_assoc]
      refine or_congr_left ?_
      omega

theorem accounted_putAll {sequence : PagedSequence α} (hacc : sequence.Accounted) {start : Nat}
    {items : List α} (hstop : start + items.length ≤ sequence.numItems) :
    (sequence.putAll start items).Accounted := by
  induction items generalizing sequence start with
  | nil => exact hacc
  | cons item rest ih =>
      rw [List.length_cons] at hstop
      exact ih (accounted_put hacc (by omega) item) (show start + 1 + rest.length ≤ _ by
        simp only [put]
        omega)

/-! ## Totals, marks and answers -/

theorem accounted_withNumItems {sequence : PagedSequence α} (hacc : sequence.Accounted)
    {total : Nat} (htotal : sequence.numItems ≤ total) :
    { sequence with numItems := total }.Accounted where
  lt_numItems := fun index hindex => Nat.lt_of_lt_of_le (hacc.lt_numItems index hindex) htotal
  loadedSizes := hacc.loadedSizes
  lt_mark := hacc.lt_mark
  mark_le := by
    intro page requestedEnd hmark
    have := hacc.mark_le hmark
    dsimp only
    omega

/-- The marks after marking: the pages named get the end of their span, the others keep
what they had. -/
theorem getElem?_markInFlight (sequence : PagedSequence α) (pages : List Nat) (page : Nat) :
    (sequence.markInFlight pages).inFlight[page]? =
      if page ∈ pages then some (Page.span page sequence.pageSize sequence.numItems).stop
      else sequence.inFlight[page]? := by
  have hfold : ∀ (marks : Std.ExtTreeMap Nat Nat),
      (pages.foldl (fun marks page =>
        marks.insert page (Page.span page sequence.pageSize sequence.numItems).stop) marks)[page]? =
        if page ∈ pages then some (Page.span page sequence.pageSize sequence.numItems).stop
        else marks[page]? := by
    induction pages with
    | nil => simp
    | cons head rest ih =>
        intro marks
        rw [List.foldl_cons, ih, Std.ExtTreeMap.getElem?_insert]
        by_cases hmem : page ∈ rest
        · simp [hmem]
        · by_cases heq : head = page
          · subst heq
            simp
          · simp [hmem, heq, Ne.symm heq]
  exact hfold sequence.inFlight

theorem accounted_markInFlight {sequence : PagedSequence α} (hacc : sequence.Accounted)
    {pages : List Nat} (hpages : ∀ page ∈ pages, page * sequence.pageSize < sequence.numItems) :
    (sequence.markInFlight pages).Accounted := by
  have hmark : ∀ {page requestedEnd : Nat},
      (sequence.markInFlight pages).inFlight[page]? = some requestedEnd →
        page * sequence.pageSize < requestedEnd ∧ requestedEnd ≤
          min (page * sequence.pageSize + sequence.pageSize) sequence.numItems := by
    intro page requestedEnd hmarked
    have hpos := sequence.pageSize_pos
    rw [getElem?_markInFlight] at hmarked
    split_ifs at hmarked with hpage
    · have hlt := hpages page hpage
      rw [Page.stop_span hlt, Option.some.injEq] at hmarked
      omega
    · exact ⟨hacc.lt_mark hmarked, hacc.mark_le hmarked⟩
  exact
    { lt_numItems := hacc.lt_numItems
      loadedSizes := hacc.loadedSizes
      lt_mark := fun hmarked => (hmark hmarked).1
      mark_le := fun hmarked => (hmark hmarked).2 }

theorem accounted_release {sequence : PagedSequence α} (hacc : sequence.Accounted)
    (range : Interval) : (sequence.release range).1.Accounted := by
  have hkept : ∀ {page requestedEnd : Nat},
      (sequence.release range).1.inFlight[page]? = some requestedEnd →
        sequence.inFlight[page]? = some requestedEnd := by
    intro page requestedEnd hmarked
    rw [getElem?_inFlight_release, Option.filter_eq_some_iff] at hmarked
    exact hmarked.1
  exact
    { lt_numItems := hacc.lt_numItems
      loadedSizes := hacc.loadedSizes
      lt_mark := fun hmarked => hacc.lt_mark (hkept hmarked)
      mark_le := fun hmarked => hacc.mark_le (hkept hmarked) }

/-! ## Merging -/

/-- Whether a batch is merged: its total is not below the present one, its items fill
its range, and its range does not pass its total. -/
def Accepts (sequence : PagedSequence α) (batch : Batch α) : Prop :=
  sequence.numItems ≤ batch.total ∧ batch.range.start ≤ batch.range.stop ∧
    batch.items.length = batch.range.length ∧ batch.range.stop ≤ batch.total

instance (sequence : PagedSequence α) (batch : Batch α) : Decidable (sequence.Accepts batch) :=
  inferInstanceAs (Decidable (_ ∧ _ ∧ _ ∧ _))

/-- What an accepted batch leaves before the marks are taken: its items are held. -/
def stored (sequence : PagedSequence α) (batch : Batch α) : PagedSequence α :=
  { sequence with numItems := batch.total }.putAll batch.range.start batch.items

theorem merge_of_accepts {sequence : PagedSequence α} {batch : Batch α}
    (haccepts : sequence.Accepts batch) :
    ∃ report, sequence.merge batch =
        (((sequence.stored batch).release batch.range).1, .ok report) ∧
      report.totalGrew = decide (sequence.numItems < batch.total) := by
  obtain ⟨htotal, horder, hcount, hstop⟩ := haccepts
  unfold merge
  rw [if_neg (by omega), if_neg (by omega)]
  exact ⟨_, rfl, rfl⟩

/-- A refused batch takes the marks it answers and changes nothing else. -/
theorem merge_of_not_accepts {sequence : PagedSequence α} {batch : Batch α}
    (hrefuses : ¬ sequence.Accepts batch) :
    ∃ error, sequence.merge batch = ((sequence.release batch.range).1, .error error) := by
  unfold merge
  by_cases hshrunk : batch.total < sequence.numItems
  · exact ⟨_, by rw [if_pos hshrunk]⟩
  · have hmisfit : batch.range.stop < batch.range.start ∨
        batch.items.length ≠ batch.range.length ∨ batch.total < batch.range.stop := by
      unfold Accepts at hrefuses
      omega
    exact ⟨_, by rw [if_neg hshrunk, if_pos hmisfit]⟩

@[simp]
theorem pageSize_stored (sequence : PagedSequence α) (batch : Batch α) :
    (sequence.stored batch).pageSize = sequence.pageSize := by
  rw [stored, putAll_eq]

@[simp]
theorem numItems_stored (sequence : PagedSequence α) (batch : Batch α) :
    (sequence.stored batch).numItems = batch.total := by
  rw [stored, putAll_eq]

@[simp]
theorem inFlight_stored (sequence : PagedSequence α) (batch : Batch α) :
    (sequence.stored batch).inFlight = sequence.inFlight := by
  rw [stored, putAll_eq]

theorem pageSize_merge (sequence : PagedSequence α) (batch : Batch α) :
    (sequence.merge batch).1.pageSize = sequence.pageSize := by
  by_cases haccepts : sequence.Accepts batch
  · obtain ⟨report, hmerge, _⟩ := merge_of_accepts haccepts
    rw [hmerge]
    exact pageSize_stored ..
  · obtain ⟨error, hmerge⟩ := merge_of_not_accepts haccepts
    rw [hmerge]
    rfl

theorem mem_stored {sequence : PagedSequence α} {batch : Batch α}
    (haccepts : sequence.Accepts batch) {index : Nat} :
    index ∈ (sequence.stored batch).items ↔ index ∈ batch.range ∨ index ∈ sequence.items := by
  obtain ⟨_, horder, hcount, _⟩ := haccepts
  unfold Interval.length at hcount
  rw [stored, mem_putAll, Interval.mem_def, hcount]
  refine or_congr_left ?_
  omega

theorem accounted_stored {sequence : PagedSequence α} (hacc : sequence.Accounted)
    {batch : Batch α} (haccepts : sequence.Accepts batch) :
    (sequence.stored batch).Accounted := by
  obtain ⟨htotal, horder, hcount, hstop⟩ := haccepts
  unfold Interval.length at hcount
  refine accounted_putAll (accounted_withNumItems hacc htotal) ?_
  dsimp only
  omega

theorem accounted_merge {sequence : PagedSequence α} (hacc : sequence.Accounted)
    (batch : Batch α) : (sequence.merge batch).1.Accounted := by
  by_cases haccepts : sequence.Accepts batch
  · obtain ⟨report, hmerge, _⟩ := merge_of_accepts haccepts
    rw [hmerge]
    exact accounted_release (accounted_stored hacc haccepts) batch.range
  · obtain ⟨error, hmerge⟩ := merge_of_not_accepts haccepts
    rw [hmerge]
    exact accounted_release hacc batch.range

end TraceViewer.PagedSequence
