import Mathlib.Data.List.Sort
import TraceViewer.Proofs.Paging.PageArithmetic

/-!
# Pages and ranges, back and forth

The pages of a sequence tile it: their spans, one after the other, are its items
(`concat_span`).  Fetching goes from pages to ranges of items, and answering goes back from
ranges to pages.  Nothing is lost on the way: the ranges made of a list of pages cover the items
of those pages, and name those pages and no others (`named_coalesce`).

Both are equalities of ascending lists, and two ascending lists are equal when they have the same
members.  So it is enough to know which items lie in a span or a range (`mem_span`,
`mem_coalesce`) and which pages a range names (`mem_startingIn`), and that the pieces come in
order (`ascending_flatMap_indices`).
-/

namespace TraceViewer.Page

variable {pageSize total : Nat} {pages : List Nat}

/-! ## Concatenations -/

/-- The indices of intervals that come in order ascend. -/
theorem ascending_flatMap_indices {β : Type} {interval : β → Interval} {pieces : List β}
    (hpieces : pieces.Pairwise fun first second =>
      ∀ lower ∈ interval first, ∀ upper ∈ interval second, lower < upper) :
    (pieces.flatMap fun piece => (interval piece).indices).Pairwise (· < ·) := by
  refine List.pairwise_flatMap.mpr ⟨fun piece _ => List.pairwise_lt_range', ?_⟩
  refine hpieces.imp fun hordered lower hlower upper hupper => ?_
  exact hordered lower (Interval.mem_indices.mp hlower) upper (Interval.mem_indices.mp hupper)

theorem mem_flatMap_indices {β : Type} {interval : β → Interval} {pieces : List β} {index : Nat} :
    index ∈ pieces.flatMap (fun piece => (interval piece).indices) ↔
      ∃ piece ∈ pieces, index ∈ interval piece := by
  simp only [List.mem_flatMap, Interval.mem_indices]

/-! ## The pages of a sequence -/

theorem lt_count_iff (hpos : 0 < pageSize) {page : Nat} :
    page < count total pageSize ↔ page * pageSize < total := by
  rw [← Nat.not_le, count_le_iff hpos, Nat.not_le]

theorem length_span (page pageSize total : Nat) :
    (span page pageSize total).length = capacity page pageSize total := by
  simp only [Interval.length, span, capacity]
  omega

/-- The spans of the pages, one after the other, are the items of the sequence. -/
theorem concat_span (hpos : 0 < pageSize) (total : Nat) :
    (List.range (count total pageSize)).flatMap (fun page => (span page pageSize total).indices) =
      List.range total := by
  have hordered : (List.range (count total pageSize)).Pairwise fun first second =>
      ∀ lower ∈ span first pageSize total, ∀ upper ∈ span second pageSize total,
        lower < upper := by
    refine List.pairwise_lt_range.imp fun {first second} hlt lower hlower upper hupper => ?_
    rw [mem_span hpos, ofIndex_eq_iff hpos] at hlower hupper
    have hapart := stop_le_start pageSize hlt
    omega
  refine (ascending_flatMap_indices hordered).eq_of_mem_iff List.pairwise_lt_range fun index => ?_
  simp only [mem_flatMap_indices, List.mem_range, mem_span hpos]
  constructor
  · rintro ⟨_, _, _, hindex⟩
    exact hindex
  · -- the page that holds an item is one of the pages of the sequence
    intro hindex
    refine ⟨ofIndex index pageSize, (lt_count_iff hpos).mpr ?_, rfl, hindex⟩
    exact Nat.lt_of_le_of_lt (start_le index pageSize) hindex

/-- How the pages of a sequence lie in it. -/
structure Tiled (pageSize total : Nat) : Prop where
  capacity_eq : ∀ page, capacity page pageSize total = (span page pageSize total).length
  /-- The pages that are counted are those that hold an item. -/
  counted : ∀ page, page < count total pageSize ↔ 0 < (span page pageSize total).length
  /-- The spans of the pages, one after the other, are the items of the sequence. -/
  concat : (List.range (count total pageSize)).flatMap
    (fun page => (span page pageSize total).indices) = List.range total

theorem tiled (hpos : 0 < pageSize) (total : Nat) : Tiled pageSize total where
  capacity_eq := fun page => (length_span page pageSize total).symm
  counted := by
    intro page
    rw [lt_count_iff hpos, length_span, capacity]
    omega
  concat := concat_span hpos total

/-! ## The ranges of a list of pages -/

theorem mem_startingIn_coalesce (hpos : 0 < pageSize) {range : Interval}
    (hrange : range ∈ coalesce pageSize total pages) {page : Nat} :
    page ∈ startingIn range pageSize ↔ page * pageSize ∈ range :=
  mem_startingIn_of_lt hpos (fetchRange_of_mem_coalesce hpos pages range hrange).nonempty

/-- The ranges of ascending pages name those of the pages that hold an item. -/
theorem named_coalesce (hpos : 0 < pageSize) (hpages : pages.Pairwise (· < ·)) :
    (coalesce pageSize total pages).flatMap (fun range => (startingIn range pageSize).indices) =
      pages.filter fun page => page < count total pageSize := by
  have hordered : (coalesce pageSize total pages).Pairwise fun first second =>
      ∀ lower ∈ startingIn first pageSize, ∀ upper ∈ startingIn second pageSize,
        lower < upper := by
    refine (coalesce_ascending hpos hpages).imp_of_mem ?_
    intro first second hfirst hsecond hgap lower hlower upper hupper
    rw [mem_startingIn_coalesce hpos hfirst, Interval.mem_def] at hlower
    rw [mem_startingIn_coalesce hpos hsecond, Interval.mem_def] at hupper
    exact Nat.lt_of_mul_lt_mul_right (a := pageSize) (by omega)
  refine (ascending_flatMap_indices hordered).eq_of_mem_iff (hpages.filter _) fun page => ?_
  -- a page is named when its first item is covered
  have hcovered : (∃ range ∈ coalesce pageSize total pages, page * pageSize ∈ range) ↔
      page ∈ pages ∧ page < count total pageSize := by
    rw [mem_coalesce hpos, ofIndex_mul hpos, lt_count_iff hpos]
  rw [mem_flatMap_indices, List.mem_filter, decide_eq_true_eq, ← hcovered]
  exact exists_congr fun range => and_congr_right fun hrange =>
    mem_startingIn_coalesce hpos hrange

/-- What the ranges are that a list of pages is fetched by. -/
structure FetchedBy (pageSize total : Nat) (pages : List Nat) (ranges : List Interval) :
    Prop where
  nonempty : ∀ range ∈ ranges, range.start < range.stop
  /-- The ranges ascend, and no two of them touch. -/
  apart : ranges.Pairwise fun first second => first.stop < second.start
  covers : ∀ index, (∃ range ∈ ranges, index ∈ range) ↔ index < total ∧ index / pageSize ∈ pages
  /-- The pages that the ranges name, one after the other, are the pages that are fetched. -/
  names : (∀ page ∈ pages, page < count total pageSize) →
    ranges.flatMap (fun range => (startingIn range pageSize).indices) = pages
  /-- A range reaches the end of every page that starts in it. -/
  reaches : ∀ range ∈ ranges, ∀ page ∈ startingIn range pageSize,
    (span page pageSize total).stop ≤ range.stop

theorem fetchedBy_coalesce (hpos : 0 < pageSize) (hpages : pages.Pairwise (· < ·)) :
    FetchedBy pageSize total pages (coalesce pageSize total pages) where
  nonempty := fun range hrange => (fetchRange_of_mem_coalesce hpos pages range hrange).nonempty
  apart := coalesce_ascending hpos hpages
  covers := by
    intro index
    rw [mem_coalesce hpos, and_comm]
    rfl
  names := by
    intro hcounted
    rw [named_coalesce hpos hpages, List.filter_eq_self]
    exact fun page hpage => decide_eq_true (hcounted page hpage)
  reaches := by
    intro range hrange page hpage
    exact (fetchRange_of_mem_coalesce hpos pages range hrange).stop_span_le
      ((mem_startingIn_coalesce hpos hrange).mp hpage)

/-- The pages of a sequence tile it, and ascending pages are fetched by ranges that cover their
items, name exactly them and reach their ends. -/
theorem pages_and_ranges_inverse (hpos : 0 < pageSize) (total : Nat) :
    Tiled pageSize total ∧ ∀ pages : List Nat, pages.Pairwise (· < ·) →
      FetchedBy pageSize total pages (coalesce pageSize total pages) :=
  ⟨tiled hpos total, fun _ hpages => fetchedBy_coalesce hpos hpages⟩

/-- Two pages that follow each other, and later the last page, of which only half exists. -/
theorem pages_and_ranges_inverse_at_end :
    let ranges := coalesce 10 45 [0, 1, 4]
    ranges = [⟨0, 20⟩, ⟨40, 45⟩] ∧
      ranges.flatMap (fun range => (startingIn range 10).indices) = [0, 1, 4] ∧
      (List.range 5).flatMap (fun page => (span page 10 45).indices) = List.range 45 := by
  have hpos : 0 < 10 := by decide
  have hinverse := pages_and_ranges_inverse hpos 45
  exact ⟨by decide, (hinverse.2 [0, 1, 4] (by decide)).names (by decide), hinverse.1.concat⟩

end TraceViewer.Page
