import Mathlib.Data.List.Basic
import TraceViewer.Proofs.Paging.AlignedHistory

/-!
# The accounts are exact

A paged sequence is told totals, asked for windows, and given batches and failures, in
any order and with any arguments: batches that start in the middle of a page, that
overlap, that come twice, that do not fill their range, totals that shrink.  Whatever
it is given, the following holds afterwards.

* The numbers it keeps say what it holds (`Exact`).  `Accounted` counts along the
  indices of a page; here the count is taken along the items, and the two agree because
  both go through the same indices once (`length_indicesIn`).
* It only grows (`Grows`): no total or page size falls, and no item is lost.
* A merge reports what it changed (`Reports`).  The new items are counted before any of
  them is held, so an index is never counted twice (`size_putAll`).
-/

namespace TraceViewer.PagedSequence

variable {α : Type}

/-! ## What an operation does -/

/-- An operation records a total, holds the items of a batch, or changes nothing but
marks. -/
theorem perform_cases (sequence : PagedSequence α) (act : Act α) :
    (∃ total, act = .setNumItems total ∧ sequence.numItems ≤ total ∧
      sequence.perform act = { sequence with numItems := total }) ∨
    (∃ batch, act = .merge batch ∧ sequence.Accepts batch ∧
      sequence.perform act = ((sequence.stored batch).release batch.range).1) ∨
    ((∀ total, act = .setNumItems total → total < sequence.numItems) ∧
      (∀ batch, act = .merge batch → ¬ sequence.Accepts batch) ∧
      ∃ marks, sequence.perform act = { sequence with inFlight := marks }) := by
  cases act with
  | setNumItems total =>
      rw [perform, setNumItems]
      split_ifs with hshrunk
      · exact Or.inr (Or.inr ⟨by simpa using hshrunk, by simp, sequence.inFlight, rfl⟩)
      · exact Or.inl ⟨total, rfl, Nat.le_of_not_lt hshrunk, rfl⟩
  | requestWindow window =>
      refine Or.inr (Or.inr ⟨by simp, by simp, ?_⟩)
      rw [perform, requestWindow]
      split
      · exact ⟨sequence.inFlight, rfl⟩
      · exact ⟨_, rfl⟩
  | failFetch range => exact Or.inr (Or.inr ⟨by simp, by simp, _, rfl⟩)
  | merge batch =>
      by_cases haccepts : sequence.Accepts batch
      · obtain ⟨report, hmerge, _⟩ := merge_of_accepts haccepts
        exact Or.inr (Or.inl ⟨batch, rfl, haccepts, by rw [perform, hmerge]⟩)
      · obtain ⟨error, hmerge⟩ := merge_of_not_accepts haccepts
        exact Or.inr (Or.inr ⟨by simp, by simpa using haccepts, _, by rw [perform, hmerge]; rfl⟩)

theorem accounted_requestWindow {sequence : PagedSequence α} (hacc : sequence.Accounted)
    (window : Interval) : (sequence.requestWindow window).1.Accounted := by
  match hrequest : sequence.requestWindow window with
  | (after, .error error) =>
      rw [requestWindow] at hrequest
      split at hrequest
      · cases hrequest
        exact hacc
      · cases hrequest
  | (after, .ok demand) =>
      rcases requestWindow_cases hrequest with ⟨_, rfl, _⟩ | ⟨hadmits, rfl, rfl⟩
      · exact hacc
      · exact accounted_markInFlight hacc (lacks_demandOf hacc hadmits).lt_numItems

theorem accounted_setNumItems {sequence : PagedSequence α} (hacc : sequence.Accounted)
    (total : Nat) : (sequence.setNumItems total).1.Accounted := by
  unfold setNumItems
  split_ifs with hshrunk
  · exact hacc
  · exact accounted_withNumItems hacc (Nat.le_of_not_lt hshrunk)

theorem accounted_perform {sequence : PagedSequence α} (hacc : sequence.Accounted)
    (act : Act α) : (sequence.perform act).Accounted := by
  cases act with
  | setNumItems total => exact accounted_setNumItems hacc total
  | requestWindow window => exact accounted_requestWindow hacc window
  | failFetch range => exact accounted_release hacc range
  | merge batch => exact accounted_merge hacc batch

theorem accounted_performAll {sequence : PagedSequence α} (hacc : sequence.Accounted)
    (acts : List (Act α)) : (sequence.performAll acts).Accounted := by
  induction acts generalizing sequence with
  | nil => exact hacc
  | cons act rest ih => exact ih (accounted_perform hacc act)

/-! ## The numbers say what is held -/

/-- The indices of the items held of a page. -/
def indicesIn (sequence : PagedSequence α) (page : Nat) : List Nat :=
  sequence.items.keys.filter fun index => Page.ofIndex index sequence.pageSize = page

theorem mem_indicesIn {sequence : PagedSequence α} {page index : Nat} :
    index ∈ sequence.indicesIn page ↔
      index ∈ sequence.items ∧ Page.ofIndex index sequence.pageSize = page := by
  simp [indicesIn]

/-- Counting the items held of a page along the page or along the items is the same. -/
theorem length_indicesIn (sequence : PagedSequence α) (page : Nat) :
    (sequence.indicesIn page).length = sequence.heldIn page := by
  have hperm : (sequence.indicesIn page).Perm
      ((List.range' (page * sequence.pageSize) sequence.pageSize).filter
        fun index => index ∈ sequence.items) := by
    refine (List.perm_ext_iff_of_nodup ?_ ?_).mpr fun index => ?_
    · exact Std.ExtTreeMap.nodup_keys.filter _
    · exact (List.nodup_range' ..).filter _
    · rw [mem_indicesIn, List.mem_filter, List.mem_range'_1,
        ← Page.ofIndex_eq_iff sequence.pageSize_pos, decide_eq_true_eq, and_comm]
  rw [hperm.length_eq, heldIn, List.countP_eq_length_filter]

theorem heldIn_ne_zero {sequence : PagedSequence α} {page : Nat} :
    sequence.heldIn page ≠ 0 ↔
      ∃ index ∈ sequence.items, Page.ofIndex index sequence.pageSize = page := by
  rw [← length_indicesIn, ← Nat.pos_iff_ne_zero, List.length_pos_iff_exists_mem]
  simp only [mem_indicesIn]

/-- What the numbers that a sequence keeps say of the items that it holds. -/
structure Exact (sequence : PagedSequence α) : Prop where
  /-- No item lies past the total. -/
  lt_numItems : ∀ index ∈ sequence.items, index < sequence.numItems
  /-- A size is kept for exactly the pages that hold an item, and it is the number of
  items held of the page. -/
  size_iff : ∀ page size, sequence.loadedSizes[page]? = some size ↔
    (∃ index ∈ sequence.items, Page.ofIndex index sequence.pageSize = page) ∧
      size = (sequence.indicesIn page).length
  /-- The mark of a page ends in the page and in the sequence. -/
  mark_bounds : ∀ page requestedEnd, sequence.inFlight[page]? = some requestedEnd →
    page * sequence.pageSize < requestedEnd ∧
      requestedEnd ≤ min ((page + 1) * sequence.pageSize) sequence.numItems
  /-- A page is complete when it starts in the sequence and its whole span is held. -/
  complete_iff : ∀ page, sequence.isPageComplete page = true ↔
    page * sequence.pageSize < sequence.numItems ∧
      ∀ index ∈ Page.span page sequence.pageSize sequence.numItems, index ∈ sequence.items
  /-- Of a complete page, the items up to the total are held and no others. -/
  held_iff : ∀ index, sequence.isPageComplete (Page.ofIndex index sequence.pageSize) = true →
    (index ∈ sequence.items ↔ index < sequence.numItems)
  /-- A window inside the sequence all of whose pages are complete shows its item in every
  slot. -/
  filled : ∀ window : Interval, window.stop ≤ sequence.numItems →
    (∀ index ∈ window,
      sequence.isPageComplete (Page.ofIndex index sequence.pageSize) = true) →
    sequence.ShowsAll window

theorem Accounted.mem_items_iff_of_complete {sequence : PagedSequence α}
    (hacc : sequence.Accounted) {index : Nat}
    (hcomplete : sequence.isPageComplete (Page.ofIndex index sequence.pageSize) = true) :
    index ∈ sequence.items ↔ index < sequence.numItems := by
  refine ⟨hacc.lt_numItems index, fun hlt => ?_⟩
  exact (hacc.isPageComplete_iff.mp hcomplete).2 index
    ((Page.mem_span sequence.pageSize_pos).mpr ⟨rfl, hlt⟩)

theorem Accounted.exact {sequence : PagedSequence α} (hacc : sequence.Accounted) :
    sequence.Exact where
  lt_numItems := hacc.lt_numItems
  size_iff := by
    intro page size
    rw [hacc.loadedSizes, length_indicesIn, ← heldIn_ne_zero]
    by_cases hzero : sequence.heldIn page = 0
    · simp [hzero]
    · rw [if_neg hzero, Option.some.injEq, and_iff_right hzero, eq_comm]
  mark_bounds := by
    intro page requestedEnd hmark
    rw [Nat.succ_mul]
    exact ⟨hacc.lt_mark hmark, hacc.mark_le hmark⟩
  complete_iff := fun page => hacc.isPageComplete_iff
  held_iff := fun index hcomplete => hacc.mem_items_iff_of_complete hcomplete
  filled := by
    intro window hstop hcomplete
    refine showsAll_of_forall_mem fun index hshown => ?_
    rw [hacc.mem_items_iff_of_complete (hcomplete index hshown)]
    exact Nat.lt_of_lt_of_le hshown.2 hstop

/-! ## A sequence only grows -/

/-- Nothing that was known before is lost: the total, the size of a page, an item. -/
structure Grows (before after : PagedSequence α) : Prop where
  numItems_le : before.numItems ≤ after.numItems
  size_le : ∀ page size : Nat, before.loadedSizes[page]? = some size →
    ∃ larger, after.loadedSizes[page]? = some larger ∧ size ≤ larger
  mem_items : ∀ index ∈ before.items, index ∈ after.items

theorem heldIn_le {before after : PagedSequence α} (hsize : after.pageSize = before.pageSize)
    (hitems : ∀ index ∈ before.items, index ∈ after.items) (page : Nat) :
    before.heldIn page ≤ after.heldIn page := by
  rw [heldIn, heldIn, hsize]
  refine List.countP_mono_left fun index _ hheld => ?_
  rw [decide_eq_true_eq] at hheld ⊢
  exact hitems index hheld

theorem mem_items_perform {sequence : PagedSequence α} {index : Nat}
    (hindex : index ∈ sequence.items) (act : Act α) : index ∈ (sequence.perform act).items := by
  rcases sequence.perform_cases act with ⟨total, _, _, heq⟩ | ⟨batch, _, haccepts, heq⟩ |
    ⟨_, _, marks, heq⟩ <;> rw [heq]
  · exact hindex
  · exact (mem_stored haccepts).mpr (Or.inr hindex)
  · exact hindex

theorem numItems_le_perform (sequence : PagedSequence α) (act : Act α) :
    sequence.numItems ≤ (sequence.perform act).numItems := by
  rcases sequence.perform_cases act with ⟨total, _, hle, heq⟩ | ⟨batch, _, haccepts, heq⟩ |
    ⟨_, _, marks, heq⟩
  · rw [heq]
    exact hle
  · rw [heq]
    exact Nat.le_trans haccepts.1 (Nat.le_of_eq (numItems_stored sequence batch).symm)
  · exact Nat.le_of_eq (by rw [heq])

theorem Accounted.grows_perform {sequence : PagedSequence α} (hacc : sequence.Accounted)
    (act : Act α) : sequence.Grows (sequence.perform act) where
  numItems_le := sequence.numItems_le_perform act
  size_le := by
    intro page size hsize
    have hle := heldIn_le (sequence.pageSize_perform act)
      (fun index hindex => mem_items_perform hindex act) page
    rw [hacc.loadedSizes] at hsize
    rw [(accounted_perform hacc act).loadedSizes]
    split_ifs at hsize with hzero
    rw [if_neg (by omega)]
    cases hsize
    exact ⟨_, rfl, hle⟩
  mem_items := fun index hindex => mem_items_perform hindex act

/-! ## A merge reports what it changed -/

/-- What the report of a merge says of the sequence before and after it. -/
structure Reports (before after : PagedSequence α) (report : MergeReport) : Prop where
  newlyLoaded : before.loadedCount + report.newlyLoaded = after.loadedCount
  releasedPages : after.inFlight.size + report.releasedPages = before.inFlight.size
  totalGrew : report.totalGrew = true ↔ before.numItems < after.numItems

theorem size_put (sequence : PagedSequence α) (index : Nat) (item : α) :
    (sequence.put index item).items.size =
      sequence.items.size + if index ∈ sequence.items then 0 else 1 := by
  simp only [put, Std.ExtTreeMap.size_insert, Std.ExtTreeMap.contains_iff_mem]
  split_ifs <;> rfl

/-- Consecutive items add as many items as there were indices without one. -/
theorem size_putAll (sequence : PagedSequence α) (start : Nat) (items : List α) :
    (sequence.putAll start items).items.size =
      sequence.items.size +
        (List.range' start items.length).countP (· ∉ sequence.items) := by
  induction items generalizing sequence start with
  | nil => rfl
  | cons item rest ih =>
      -- the first index is not one of the later ones
      have hlater : (List.range' (start + 1) rest.length).countP
            (· ∉ (sequence.put start item).items) =
          (List.range' (start + 1) rest.length).countP (· ∉ sequence.items) := by
        refine List.countP_congr fun index hindex => ?_
        rw [List.mem_range'_1] at hindex
        simp only [decide_eq_true_eq, mem_put, show start ≠ index by omega, false_or]
      rw [putAll, ih, size_put, hlater, List.length_cons, List.range'_succ, List.countP_cons]
      by_cases hheld : start ∈ sequence.items
      · simp [hheld]
      · simp [hheld]
        omega

/-- Of the marks, those that are taken and those that stay are all. -/
theorem size_release (sequence : PagedSequence α) (range : Interval) :
    (sequence.release range).1.inFlight.size + (sequence.release range).2 =
      sequence.inFlight.size := by
  have hsplit := List.length_eq_length_filter_add (l := sequence.inFlight.toList)
    fun mark => sequence.releases range mark.1 mark.2
  rw [Std.ExtTreeMap.length_toList] at hsplit
  rw [release, ← Std.ExtTreeMap.length_toList, ← Std.ExtTreeMap.length_toList,
    Std.ExtTreeMap.toList_filter, Std.ExtTreeMap.toList_filter]
  omega

theorem merge_eq_ok {sequence after : PagedSequence α} {batch : Batch α} {report : MergeReport}
    (hmerge : sequence.merge batch = (after, .ok report)) :
    after = ((sequence.stored batch).release batch.range).1 ∧
      batch.items.length = batch.range.length ∧
      report =
        { newlyLoaded := batch.range.indices.countP (· ∉ sequence.items)
          releasedPages := ((sequence.stored batch).release batch.range).2
          totalGrew := sequence.numItems < batch.total } := by
  by_cases haccepts : sequence.Accepts batch
  · obtain ⟨htotal, horder, hcount, hstop⟩ := haccepts
    unfold merge at hmerge
    rw [if_neg (by omega), if_neg (by omega)] at hmerge
    cases hmerge
    exact ⟨rfl, hcount, rfl⟩
  · obtain ⟨error, hrefused⟩ := merge_of_not_accepts haccepts
    rw [hrefused] at hmerge
    cases hmerge

theorem reports_merge {sequence after : PagedSequence α} {batch : Batch α} {report : MergeReport}
    (hmerge : sequence.merge batch = (after, .ok report)) : sequence.Reports after report := by
  obtain ⟨rfl, hlength, rfl⟩ := merge_eq_ok hmerge
  have hsize := size_release (sequence.stored batch) batch.range
  rw [inFlight_stored] at hsize
  exact
    { newlyLoaded := by
        rw [Interval.indices, ← hlength]
        exact (size_putAll { sequence with numItems := batch.total } _ _).symm
      releasedPages := hsize
      totalGrew := by
        rw [decide_eq_true_eq]
        exact iff_of_eq (congrArg _ (numItems_stored sequence batch).symm) }

/-- After any history, whatever the arguments: the numbers say what is held, a further
operation loses nothing, and a batch that is accepted reports what it changed. -/
theorem exact_after_any_history (pageSize : Nat) (hpos : 0 < pageSize) (acts : List (Act α)) :
    let sequence := (ofPageSize pageSize hpos).performAll acts
    sequence.Exact ∧
    (∀ act, sequence.Grows (sequence.perform act)) ∧
    ∀ (batch : Batch α) (after : PagedSequence α) (report : MergeReport),
      sequence.merge batch = (after, .ok report) → sequence.Reports after report := by
  intro sequence
  have hacc : sequence.Accounted := accounted_performAll (accounted_ofPageSize pageSize hpos) acts
  exact ⟨hacc.exact, hacc.grows_perform, fun _ _ _ => reports_merge⟩

/-- Batches that start inside pages and overlap each other, a batch that shrinks the
total, and a last page that is cut off. -/
theorem exact_after_overlapping_batches :
    let sequence := (ofPageSize 4 (by decide) : PagedSequence Nat).performAll
      [.setNumItems 6, .requestWindow ⟨2, 6⟩, .merge ⟨⟨3, 6⟩, [30, 40, 50], 6⟩,
        .merge ⟨⟨2, 5⟩, [21, 31, 41], 5⟩, .merge ⟨⟨1, 5⟩, [12, 22, 32, 42], 6⟩, .failFetch ⟨0, 4⟩]
    sequence.items.toList = [(1, 12), (2, 22), (3, 32), (4, 42), (5, 50)] ∧
      sequence.loadedSizes.toList = [(0, 3), (1, 2)] ∧ sequence.isPageComplete 1 = true ∧
      sequence.Exact := by
  refine ⟨by decide +kernel, by decide +kernel, by decide +kernel, ?_⟩
  exact (exact_after_any_history 4 (by decide) _).1

end TraceViewer.PagedSequence
