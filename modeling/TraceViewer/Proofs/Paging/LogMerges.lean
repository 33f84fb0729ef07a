import TraceViewer.Proofs.Paging.ExactAccounts

/-!
# Merging pieces of one log

The items of a sequence come from a log that never changes what it has written: every
batch brings the items that the log has at its range, however the ranges overlap, in
whatever order the batches arrive and however often.  Totals, windows and failures come
in between, and some batches are refused.

What is held in the end depends on nothing but the ranges that were accepted.  An index
is held exactly when an accepted range contains it, and then it holds the item of the
log (`Portrays`).  The size of a page is determined by the items held, and the total is
the largest one that was accepted.  Which batches are accepted does depend on the order,
since a total may have overtaken them; so the ranges are gathered along the run, each
from the answer of the operation that met it (`gather`).
-/

namespace TraceViewer.PagedSequence

variable {α : Type}

/-! ## What a run accepts -/

/-- Whether a batch, if there is one, brings the items that a log has at its range. -/
def Act.Quotes (log : Nat → α) : Act α → Prop
  | .merge batch => batch.items = batch.range.indices.map log
  | .setNumItems _ | .requestWindow _ | .failFetch _ => True

/-- The range of a batch that is accepted. -/
def acceptedRange? (sequence : PagedSequence α) : Act α → Option Interval
  | .merge batch => if (sequence.merge batch).2.isOk then some batch.range else none
  | .setNumItems _ | .requestWindow _ | .failFetch _ => none

/-- The total that is accepted, reported by itself or with a batch. -/
def acceptedTotal? (sequence : PagedSequence α) : Act α → Option Nat
  | .merge batch => if (sequence.merge batch).2.isOk then some batch.total else none
  | .setNumItems total => if (sequence.setNumItems total).2.isOk then some total else none
  | .requestWindow _ | .failFetch _ => none

/-- What the operations of a run tell, each seen from the sequence that it meets. -/
def gather {β : Type} (told : PagedSequence α → Act α → Option β) (sequence : PagedSequence α) :
    List (Act α) → List β
  | [] => []
  | act :: rest => (told sequence act).toList ++ gather told (sequence.perform act) rest

/-- The ranges of the batches that a run accepts. -/
def acceptedRanges (sequence : PagedSequence α) (acts : List (Act α)) : List Interval :=
  gather acceptedRange? sequence acts

/-- The totals that a run accepts. -/
def acceptedTotals (sequence : PagedSequence α) (acts : List (Act α)) : List Nat :=
  gather acceptedTotal? sequence acts

theorem isOk_merge {sequence : PagedSequence α} {batch : Batch α} :
    (sequence.merge batch).2.isOk = true ↔ sequence.Accepts batch := by
  by_cases haccepts : sequence.Accepts batch
  · obtain ⟨report, hmerge, _⟩ := merge_of_accepts haccepts
    simp [hmerge, haccepts, Except.isOk, Except.toBool]
  · obtain ⟨error, hmerge⟩ := merge_of_not_accepts haccepts
    simp [hmerge, haccepts, Except.isOk, Except.toBool]

theorem isOk_setNumItems {sequence : PagedSequence α} {total : Nat} :
    (sequence.setNumItems total).2.isOk = true ↔ sequence.numItems ≤ total := by
  rw [setNumItems]
  split_ifs with hshrunk
  · simpa [Except.isOk, Except.toBool] using hshrunk
  · simpa [Except.isOk, Except.toBool] using hshrunk

/-- An operation that is refused, or that tells nothing, changes nothing but marks; the
others do what they tell. -/
theorem perform_accepted (sequence : PagedSequence α) (act : Act α) :
    (∃ total, sequence.acceptedTotal? act = some total ∧ sequence.acceptedRange? act = none ∧
      sequence.numItems ≤ total ∧ sequence.perform act = { sequence with numItems := total }) ∨
    (∃ batch, act = .merge batch ∧ sequence.Accepts batch ∧
      sequence.acceptedTotal? act = some batch.total ∧
      sequence.acceptedRange? act = some batch.range ∧
      sequence.perform act = ((sequence.stored batch).release batch.range).1) ∨
    (sequence.acceptedTotal? act = none ∧ sequence.acceptedRange? act = none ∧
      ∃ marks, sequence.perform act = { sequence with inFlight := marks }) := by
  rcases sequence.perform_cases act with ⟨total, rfl, hle, heq⟩ | ⟨batch, rfl, haccepts, heq⟩ |
    ⟨hshrunk, hrefused, hmarks⟩
  · exact Or.inl ⟨total, if_pos (isOk_setNumItems.mpr hle), rfl, hle, heq⟩
  · exact Or.inr (Or.inl ⟨batch, rfl, haccepts, if_pos (isOk_merge.mpr haccepts),
      if_pos (isOk_merge.mpr haccepts), heq⟩)
  · refine Or.inr (Or.inr ?_)
    cases act with
    | setNumItems total =>
        -- a total that shrinks the sequence is refused
        have hnot : ¬ sequence.numItems ≤ total := Nat.not_le.mpr (hshrunk total rfl)
        exact ⟨if_neg (isOk_setNumItems.not.mpr hnot), rfl, hmarks⟩
    | requestWindow window => exact ⟨rfl, rfl, hmarks⟩
    | failFetch range => exact ⟨rfl, rfl, hmarks⟩
    | merge batch =>
        have hnot := isOk_merge.not.mpr (hrefused batch rfl)
        exact ⟨if_neg hnot, if_neg hnot, hmarks⟩

/-! ## The items held are those of the log -/

/-- The items held are those of a log at the indices of some ranges. -/
structure Portrays (log : Nat → α) (ranges : List Interval) (sequence : PagedSequence α) :
    Prop where
  accounted : sequence.Accounted
  getElem?_items : ∀ index, sequence.items[index]? =
    if ∃ range ∈ ranges, index ∈ range then some (log index) else none

/-- A batch of the log brings the items of the log at its range. -/
theorem getElem?_stored {log : Nat → α} {sequence : PagedSequence α} {batch : Batch α}
    (hquotes : batch.items = batch.range.indices.map log) (index : Nat) :
    (sequence.stored batch).items[index]? =
      if index ∈ batch.range then some (log index) else sequence.items[index]? := by
  have hlength : batch.items.length = batch.range.length := by
    rw [hquotes, List.length_map, Interval.indices, List.length_range']
  rw [stored, getElem?_putAll, hlength, Interval.length]
  by_cases hindex : index ∈ batch.range
  · rw [if_pos hindex]
    rw [Interval.mem_def] at hindex
    -- the item at the offset into the batch is the one of the index
    have hoffset : index - batch.range.start < batch.range.stop - batch.range.start := by omega
    rw [if_pos (by omega), hquotes, Interval.indices, Interval.length, List.getElem?_map,
      List.getElem?_range' hoffset, Option.map_some]
    congr 2
    omega
  · rw [if_neg hindex]
    rw [Interval.mem_def] at hindex
    rw [if_neg (by omega)]

theorem Portrays.mem_items {log : Nat → α} {ranges : List Interval} {sequence : PagedSequence α}
    (hportrays : sequence.Portrays log ranges) {index : Nat} :
    index ∈ sequence.items ↔ ∃ range ∈ ranges, index ∈ range := by
  rw [Std.ExtTreeMap.mem_iff_isSome_getElem?, hportrays.getElem?_items]
  split_ifs with hcovered <;> simpa using hcovered

theorem Portrays.perform {log : Nat → α} {ranges : List Interval} {sequence : PagedSequence α}
    (hportrays : sequence.Portrays log ranges) {act : Act α} (hquotes : act.Quotes log) :
    (sequence.perform act).Portrays log (ranges ++ (sequence.acceptedRange? act).toList) where
  accounted := accounted_perform hportrays.accounted act
  getElem?_items := by
    intro index
    rcases sequence.perform_accepted act with ⟨total, _, hrange, _, heq⟩ |
      ⟨batch, rfl, haccepts, _, hrange, heq⟩ | ⟨_, hrange, marks, heq⟩ <;> rw [hrange, heq]
    · simpa using hportrays.getElem?_items index
    · -- what the batch does not cover was held before, or is still missing
      change (sequence.stored batch).items[index]? = _
      rw [getElem?_stored hquotes, hportrays.getElem?_items]
      by_cases hindex : index ∈ batch.range
      · rw [if_pos hindex, if_pos ⟨batch.range, by simp, hindex⟩]
      · simp [or_and_right, exists_or, hindex]
    · simpa using hportrays.getElem?_items index

theorem Portrays.performAll {log : Nat → α} {ranges : List Interval}
    {sequence : PagedSequence α} (hportrays : sequence.Portrays log ranges) {acts : List (Act α)}
    (hquotes : ∀ act ∈ acts, act.Quotes log) :
    (sequence.performAll acts).Portrays log (ranges ++ sequence.acceptedRanges acts) := by
  induction acts generalizing sequence ranges with
  | nil =>
      rw [acceptedRanges, gather, List.append_nil]
      exact hportrays
  | cons act rest ih =>
      rw [List.forall_mem_cons] at hquotes
      rw [acceptedRanges, gather, ← List.append_assoc]
      exact ih (hportrays.perform hquotes.1) hquotes.2

/-- The size of a page is the number of its indices that the ranges cover. -/
theorem Portrays.getElem?_loadedSizes {log : Nat → α} {ranges : List Interval}
    {sequence : PagedSequence α} (hportrays : sequence.Portrays log ranges) (page : Nat) :
    sequence.loadedSizes[page]? =
      let size := (List.range' (page * sequence.pageSize) sequence.pageSize).countP
        fun index => ∃ range ∈ ranges, index ∈ range
      if size = 0 then none else some size := by
  rw [hportrays.accounted.loadedSizes, heldIn]
  simp only [hportrays.mem_items]

/-! ## The total -/

theorem numItems_perform (sequence : PagedSequence α) (act : Act α) :
    (sequence.perform act).numItems =
      (sequence.acceptedTotal? act).toList.foldl max sequence.numItems := by
  rcases sequence.perform_accepted act with ⟨total, htotal, _, hle, heq⟩ |
    ⟨batch, rfl, haccepts, htotal, _, heq⟩ | ⟨htotal, _, marks, heq⟩ <;> rw [htotal, heq]
  · exact (Nat.max_eq_right hle).symm
  · calc ((sequence.stored batch).release batch.range).1.numItems
      _ = batch.total := numItems_stored sequence batch
      _ = max sequence.numItems batch.total := (Nat.max_eq_right haccepts.1).symm
  · rfl

theorem numItems_performAll (sequence : PagedSequence α) (acts : List (Act α)) :
    (sequence.performAll acts).numItems =
      (sequence.acceptedTotals acts).foldl max sequence.numItems := by
  induction acts generalizing sequence with
  | nil => rfl
  | cons act rest ih =>
      rw [acceptedTotals, gather, List.foldl_append, ← numItems_perform]
      exact ih (sequence.perform act)

theorem pageSize_performAll (sequence : PagedSequence α) (acts : List (Act α)) :
    (sequence.performAll acts).pageSize = sequence.pageSize := by
  induction acts generalizing sequence with
  | nil => rfl
  | cons act rest ih => exact (ih (sequence.perform act)).trans (sequence.pageSize_perform act)

/-! ## The order does not matter -/

theorem portrays_ofPageSize (log : Nat → α) (pageSize : Nat) (hpos : 0 < pageSize) :
    (ofPageSize pageSize hpos).Portrays log [] where
  accounted := accounted_ofPageSize pageSize hpos
  getElem?_items := by simp [ofPageSize]

/-- Two sequences that portray one log at ranges that are the same, but for order and
repetitions, hold the same items and count them alike. -/
theorem Portrays.eq_of_same_ranges {log : Nat → α} {ranges others : List Interval}
    {first second : PagedSequence α} (hfirst : first.Portrays log ranges)
    (hsecond : second.Portrays log others) (hsize : first.pageSize = second.pageSize)
    (hsame : ∀ range, range ∈ ranges ↔ range ∈ others) :
    first.items = second.items ∧ first.loadedSizes = second.loadedSizes := by
  constructor <;> refine Std.ExtTreeMap.ext_getElem? fun place => ?_
  · simp only [hfirst.getElem?_items, hsecond.getElem?_items, hsame]
  · simp only [hfirst.getElem?_loadedSizes, hsecond.getElem?_loadedSizes, hsize, hsame]

/-- After any run whose batches bring the items of one log: the items held are those of
the log at the accepted ranges, the size of a page is the number of its indices that
these cover, and the total is the largest accepted one.  So a run that accepts the same
ranges and the same largest total ends with the same items, sizes and total. -/
theorem log_on_accepted_ranges (pageSize : Nat) (hpos : 0 < pageSize) (log : Nat → α)
    (acts : List (Act α)) (hquotes : ∀ act ∈ acts, act.Quotes log) :
    let start : PagedSequence α := ofPageSize pageSize hpos
    let sequence := start.performAll acts
    (∀ index, sequence.items[index]? =
      if ∃ range ∈ start.acceptedRanges acts, index ∈ range then some (log index) else none) ∧
    (∀ page : Nat, sequence.loadedSizes[page]? =
      let size := (List.range' (page * pageSize) pageSize).countP
        fun index => ∃ range ∈ start.acceptedRanges acts, index ∈ range
      if size = 0 then none else some size) ∧
    sequence.numItems = (start.acceptedTotals acts).foldl max 0 ∧
    ∀ others : List (Act α), (∀ act ∈ others, act.Quotes log) →
      (∀ range, range ∈ start.acceptedRanges others ↔ range ∈ start.acceptedRanges acts) →
      (start.acceptedTotals others).foldl max 0 = (start.acceptedTotals acts).foldl max 0 →
      (start.performAll others).items = sequence.items ∧
        (start.performAll others).loadedSizes = sequence.loadedSizes ∧
        (start.performAll others).numItems = sequence.numItems := by
  intro start sequence
  -- both runs portray the same log, on ranges with the same members
  have hportrays : ∀ run : List (Act α), (∀ act ∈ run, act.Quotes log) →
      (start.performAll run).Portrays log (start.acceptedRanges run) :=
    fun run hrun => (portrays_ofPageSize log pageSize hpos).performAll hrun
  have hpageSize : ∀ run : List (Act α), (start.performAll run).pageSize = pageSize :=
    fun run => start.pageSize_performAll run
  refine ⟨(hportrays acts hquotes).getElem?_items, fun page => ?_, start.numItems_performAll acts,
    fun others hothers hsame htotal => ?_⟩
  · have hsizes := (hportrays acts hquotes).getElem?_loadedSizes page
    rwa [hpageSize acts] at hsizes
  · obtain ⟨hitems, hsizes⟩ := (hportrays others hothers).eq_of_same_ranges
      (hportrays acts hquotes) ((hpageSize others).trans (hpageSize acts).symm) hsame
    refine ⟨hitems, hsizes, ?_⟩
    calc (start.performAll others).numItems
      _ = (start.acceptedTotals others).foldl max 0 := start.numItems_performAll others
      _ = (start.acceptedTotals acts).foldl max 0 := htotal
      _ = sequence.numItems := (start.numItems_performAll acts).symm

/-- Two overlapping batches, in one order and in the other, the second time with a
repetition, a refused batch, a request and a failure in between. -/
theorem same_after_reordered_batches :
    let log : Nat → Nat := fun index => 10 * index
    let start : PagedSequence Nat := ofPageSize 4 (by decide)
    let acts : List (Act Nat) :=
      [.merge ⟨⟨0, 3⟩, [0, 10, 20], 6⟩, .merge ⟨⟨2, 6⟩, [20, 30, 40, 50], 6⟩]
    let others : List (Act Nat) :=
      [.merge ⟨⟨2, 6⟩, [20, 30, 40, 50], 6⟩, .merge ⟨⟨6, 8⟩, [60, 70], 7⟩, .requestWindow ⟨0, 2⟩,
        .merge ⟨⟨0, 3⟩, [0, 10, 20], 6⟩, .failFetch ⟨0, 4⟩, .merge ⟨⟨2, 6⟩, [20, 30, 40, 50], 6⟩]
    (∀ act ∈ acts, act.Quotes log) ∧ (∀ act ∈ others, act.Quotes log) ∧
      (start.performAll acts).loadedSizes.toList = [(0, 4), (1, 2)] ∧
      (start.performAll others).items = (start.performAll acts).items := by
  intro log start acts others
  have hacts : ∀ act ∈ acts, act.Quotes log := by
    simp [acts, Act.Quotes, log, Interval.indices, Interval.length, List.range']
  have hothers : ∀ act ∈ others, act.Quotes log := by
    simp [others, Act.Quotes, log, Interval.indices, Interval.length, List.range']
  have hranges : start.acceptedRanges others = [⟨2, 6⟩, ⟨0, 3⟩, ⟨2, 6⟩] ∧
      start.acceptedRanges acts = [⟨0, 3⟩, ⟨2, 6⟩] := by
    constructor <;> decide +kernel
  refine ⟨hacts, hothers, by decide +kernel, ?_⟩
  refine ((log_on_accepted_ranges 4 (by decide) log acts hacts).2.2.2 others hothers ?_ ?_).1
  · intro range
    rw [hranges.1, hranges.2]
    simp only [List.mem_cons, List.not_mem_nil, or_false]
    tauto
  · decide +kernel

end TraceViewer.PagedSequence
