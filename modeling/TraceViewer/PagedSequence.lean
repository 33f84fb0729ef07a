import TraceViewer.Page.Missing

/-!
# Paged sequences

A paged sequence is a sparse local copy of a remote sequence that only grows.  It
knows the total that the source reported, the items fetched so far, how many
items each page holds, and which pages are being fetched.

A page that is being fetched is marked with the end of the span it was requested
for.  The mark goes when an answer reaches that end, or when the page is complete
anyway.  The answer to an earlier and shorter request for the same page leaves
the mark of the later request alone.
-/

namespace TraceViewer

/-- What has to be fetched for a window: pages, and intervals that cover them. -/
structure PageDemand where
  /-- The pages that are newly marked as being fetched, ascending. -/
  pages : List Nat := []
  /-- The intervals of items to fetch, one for each run of neighbouring pages. -/
  ranges : List Interval := []
deriving Repr, DecidableEq, Inhabited

/-- Whether nothing has to be fetched. -/
def PageDemand.isEmpty (demand : PageDemand) : Bool := demand.pages.isEmpty

/-- What merging a batch did. -/
structure MergeReport where
  /-- How many items of the batch were not held before. -/
  newlyLoaded : Nat
  /-- How many pages are no longer marked as being fetched. -/
  releasedPages : Nat
  /-- Whether the total grew. -/
  totalGrew : Bool
deriving Repr, DecidableEq, Inhabited

/-- Consecutive items of a sequence, as a source delivers them. -/
structure Batch (α : Type) where
  /-- The indices of the items. -/
  range : Interval
  items : List α
  /-- The length of the whole sequence when the batch was made. -/
  total : Nat
deriving Repr, DecidableEq, Inhabited

/-- A sparse local copy of a remote sequence. -/
structure PagedSequence (α : Type) where
  pageSize : Nat
  pageSize_pos : 0 < pageSize
  /-- The number of items that the source reported. -/
  numItems : Nat
  /-- The items held, by index. -/
  items : Std.ExtTreeMap Nat α
  /-- The number of items held in each page that holds any. -/
  loadedSizes : Page.LoadedSizes
  /-- The pages being fetched, each with the end of the span it was requested for. -/
  inFlight : Std.ExtTreeMap Nat Nat

namespace PagedSequence

variable {α : Type}

/-- A sequence of which nothing is known, in pages of a given size. -/
def ofPageSize (pageSize : Nat) (pageSize_pos : 0 < pageSize) : PagedSequence α where
  pageSize := pageSize
  pageSize_pos := pageSize_pos
  numItems := 0
  items := ∅
  loadedSizes := ∅
  inFlight := ∅

/-- A sequence of which nothing is known, unless its pages are to be empty. -/
def new (pageSize : Nat) : Except ViewError (PagedSequence α) :=
  if h : 0 < pageSize then .ok (ofPageSize pageSize h)
  else .error (.invalidArgument .emptyPages)

/-! ## Looking at a sequence -/

/-- The number of items held. -/
def loadedCount (sequence : PagedSequence α) : Nat := sequence.items.size

/-- Whether a page holds every item it can hold at the present total. -/
def isPageComplete (sequence : PagedSequence α) (page : Nat) : Bool :=
  let capacity := Page.capacity page sequence.pageSize sequence.numItems
  capacity ≤ sequence.loadedSizes[page]?.getD 0 && 0 < capacity

/-- Whether a page is being fetched. -/
def isInFlight (sequence : PagedSequence α) (page : Nat) : Bool := page ∈ sequence.inFlight

/-- Whether no page is being fetched. -/
def isIdle (sequence : PagedSequence α) : Bool := sequence.inFlight.isEmpty

/-- The items held in an interval with their indices, the highest index first. -/
def backwards (sequence : PagedSequence α) (range : Interval) : List (Nat × α) :=
  (sequence.items.toList.filter fun (index, _) => index ∈ range).reverse

/-- The `displayCount` slots from `scrollBegin` on, empty where nothing is held. -/
def visibleSlice (sequence : PagedSequence α) (scrollBegin displayCount : Nat) :
    List (Option α) :=
  (List.range' scrollBegin displayCount).map fun index => sequence.items[index]?

/-! ## Totals -/

/-- Record a new total, which may not be below the present one, and say whether it
grew. -/
def setNumItems (sequence : PagedSequence α) (total : Nat) :
    PagedSequence α × Except ViewError Bool :=
  if total < sequence.numItems then
    (sequence, .error (.consistencyViolation sequence.numItems total))
  else ({ sequence with numItems := total }, .ok (sequence.numItems < total))

/-! ## Requests -/

/-- Mark pages as being fetched, each for its span at the present total. -/
def markInFlight (sequence : PagedSequence α) (pages : List Nat) : PagedSequence α :=
  { sequence with
    inFlight := pages.foldl (fun marks page =>
      marks.insert page (Page.span page sequence.pageSize sequence.numItems).stop)
      sequence.inFlight }

/-- Ask for the pages that a window is missing and that are not being fetched
already, and mark them. -/
def requestWindow (sequence : PagedSequence α) (window : Interval) :
    PagedSequence α × Except ViewError PageDemand :=
  match Page.missing window sequence.pageSize sequence.numItems sequence.loadedSizes with
  | .error error => (sequence, .error error)
  | .ok missing =>
    let pages := missing.filter fun page => !sequence.isInFlight page
    (sequence.markInFlight pages,
      .ok { pages, ranges := Page.coalesce sequence.pageSize sequence.numItems pages })

/-! ## Answers -/

/-- Whether the answer for a range releases a page requested up to `requestedEnd`:
the page starts in the range, and the range reaches that end or the page is
complete. -/
def releases (sequence : PagedSequence α) (range : Interval) (page requestedEnd : Nat) : Bool :=
  page ∈ Page.startingIn range sequence.pageSize &&
    (requestedEnd ≤ range.stop || sequence.isPageComplete page)

/-- Take the marks from the pages that the answer for a range releases, and count
them. -/
def release (sequence : PagedSequence α) (range : Interval) : PagedSequence α × Nat :=
  ({ sequence with
      inFlight := sequence.inFlight.filter fun page requestedEnd =>
        !sequence.releases range page requestedEnd },
    (sequence.inFlight.filter (sequence.releases range)).size)

/-- A release takes exactly the marks it names and leaves the others as they are. -/
theorem getElem?_inFlight_release (sequence : PagedSequence α) (range : Interval) (page : Nat) :
    (sequence.release range).1.inFlight[page]? =
      sequence.inFlight[page]?.filter fun requestedEnd =>
        !sequence.releases range page requestedEnd := by
  simp [release]

/-- A fetch for a range failed.  The number of released pages is returned. -/
def failFetch (sequence : PagedSequence α) (range : Interval) : PagedSequence α × Nat :=
  sequence.release range

/-- Hold an item.  An item that was held already is replaced and not counted
again. -/
def put (sequence : PagedSequence α) (index : Nat) (item : α) : PagedSequence α :=
  let page := Page.ofIndex index sequence.pageSize
  { sequence with
    items := sequence.items.insert index item
    loadedSizes :=
      if index ∈ sequence.items then sequence.loadedSizes
      else sequence.loadedSizes.insert page (sequence.loadedSizes[page]?.getD 0 + 1) }

theorem getElem?_put (sequence : PagedSequence α) (index : Nat) (item : α) (i : Nat) :
    (sequence.put index item).items[i]? =
      if index = i then some item else sequence.items[i]? := by
  simp [put, Std.ExtTreeMap.getElem?_insert]

/-- Hold consecutive items from an index on. -/
def putAll (sequence : PagedSequence α) (start : Nat) : List α → PagedSequence α
  | [] => sequence
  | item :: rest => (sequence.put start item).putAll (start + 1) rest

/-- Consecutive items cover the indices from the first on, and no other index. -/
theorem getElem?_putAll (sequence : PagedSequence α) (start : Nat) (items : List α) (i : Nat) :
    (sequence.putAll start items).items[i]? =
      if start ≤ i ∧ i < start + items.length then items[i - start]? else sequence.items[i]? := by
  induction items generalizing sequence start with
  | nil =>
    have hempty : ¬ (start ≤ i ∧ i < start + ([] : List α).length) := by
      rw [List.length_nil]
      omega
    rw [putAll, if_neg hempty]
  | cons item rest ih =>
    rw [putAll, ih, getElem?_put]
    rcases Nat.lt_trichotomy i start with h | rfl | h
    · simp [show ¬ start + 1 ≤ i by omega, show ¬ start ≤ i by omega, show start ≠ i by omega]
    · simp [show ¬ i + 1 ≤ i by omega]
    · obtain ⟨offset, rfl⟩ : ∃ offset, i = start + 1 + offset := ⟨i - (start + 1), by omega⟩
      have hrest : start + 1 + offset - (start + 1) = offset := by omega
      have hall : start + 1 + offset - start = offset + 1 := by omega
      by_cases hlt : offset < rest.length
      · simp [hrest, hall, hlt, show start ≤ start + 1 + offset by omega,
          show start + 1 + offset < start + (rest.length + 1) by omega]
      · simp [hlt, show start ≠ start + 1 + offset by omega,
          show ¬ start + 1 + offset < start + (rest.length + 1) by omega]

/-- Merge a batch.  A batch is refused when its total is below the present one,
when its items do not fill its range, or when its range passes its total; it then
changes no item and no total.  Either way it answers the requests it names. -/
def merge (sequence : PagedSequence α) (batch : Batch α) :
    PagedSequence α × Except ViewError MergeReport :=
  let range := batch.range
  let count := batch.items.length
  if batch.total < sequence.numItems then
    ((sequence.release range).1,
      .error (.consistencyViolation sequence.numItems batch.total))
  else if range.stop < range.start ∨ count ≠ range.length ∨ batch.total < range.stop then
    ((sequence.release range).1,
      .error (.invalidArgument (.misfitBatch range.start range.stop count batch.total)))
  else
    let stored := { sequence with numItems := batch.total }.putAll range.start batch.items
    let released := stored.release range
    (released.1,
      .ok
        { newlyLoaded := range.indices.countP (· ∉ sequence.items)
          releasedPages := released.2
          totalGrew := sequence.numItems < batch.total })

end PagedSequence

end TraceViewer
