import Mathlib.Tactic.Common
import TraceViewer.Page.Basic

/-!
# Pages, spans and fetch ranges

A fetch is asked for as an interval of items and is answered as an interval of
items, while the marks of running fetches are kept by page.  This file relates the
two: which pages an interval names (`mem_startingIn`), and which items the intervals
of a list of pages cover (`mem_coalesce`).

The intervals that `coalesce` makes of ascending pages start where a page starts,
are not empty, and keep a gap between each other (`coalesce_ascending`).  No item is
therefore fetched twice for one demand, and the answer to an interval names exactly
the pages it was asked for.
-/

namespace TraceViewer.Page

variable {pageSize total : Nat}

/-! ## The page of an item -/

theorem ofIndex_eq_iff (hpos : 0 < pageSize) {index page : Nat} :
    ofIndex index pageSize = page ↔
      page * pageSize ≤ index ∧ index < page * pageSize + pageSize := by
  rw [ofIndex, Nat.div_eq_iff hpos]
  omega

theorem ofIndex_mul (hpos : 0 < pageSize) (page : Nat) :
    ofIndex (page * pageSize) pageSize = page :=
  Nat.mul_div_cancel page hpos

theorem start_le (index pageSize : Nat) : ofIndex index pageSize * pageSize ≤ index :=
  Nat.div_mul_le_self index pageSize

theorem lt_stop (hpos : 0 < pageSize) (index : Nat) :
    index < ofIndex index pageSize * pageSize + pageSize :=
  ((ofIndex_eq_iff hpos).mp rfl).2

theorem stop_le_start (pageSize : Nat) {first second : Nat} (hlt : first < second) :
    first * pageSize + pageSize ≤ second * pageSize := by
  rw [← Nat.succ_mul]
  exact Nat.mul_le_mul_right pageSize hlt

/-- The items of an interval that starts with a page come after the start of every
page that they lie in. -/
theorem start_le_of_aligned {start index page : Nat}
    (haligned : start % pageSize = 0) (hle : start ≤ index)
    (hpage : ofIndex index pageSize = page) : start ≤ page * pageSize := by
  have hstart : start = start / pageSize * pageSize :=
    (Nat.div_mul_cancel (Nat.dvd_of_mod_eq_zero haligned)).symm
  rw [hstart, ← hpage]
  exact Nat.mul_le_mul_right pageSize (Nat.div_le_div_right hle)

/-! ## Spans -/

theorem stop_span {page : Nat} (hlt : page * pageSize < total) :
    (span page pageSize total).stop = min (page * pageSize + pageSize) total := by
  simp only [span]
  omega

theorem mem_span (hpos : 0 < pageSize) {page index : Nat} :
    index ∈ span page pageSize total ↔ ofIndex index pageSize = page ∧ index < total := by
  rw [ofIndex_eq_iff hpos, Interval.mem_def]
  simp only [span]
  omega

theorem isEmpty_span (hpos : 0 < pageSize) {page : Nat} :
    (span page pageSize total).isEmpty = true ↔ total ≤ page * pageSize := by
  rw [Interval.isEmpty, decide_eq_true_eq]
  simp only [span]
  omega

/-! ## The pages that an interval names -/

theorem count_le_iff (hpos : 0 < pageSize) {items page : Nat} :
    count items pageSize ≤ page ↔ items ≤ page * pageSize := by
  rw [count, Nat.div_le_iff_le_mul hpos]
  omega

theorem mem_startingIn_of_lt (hpos : 0 < pageSize) {range : Interval}
    (hlt : range.start < range.stop) {page : Nat} :
    page ∈ startingIn range pageSize ↔ page * pageSize ∈ range := by
  have hlast : (range.stop - 1) / pageSize < page ↔ range.stop - 1 < page * pageSize :=
    Nat.div_lt_iff_lt_mul hpos
  have hcount : count range.start pageSize ≤ page ↔ range.start ≤ page * pageSize :=
    count_le_iff hpos
  simp only [startingIn, Interval.mem_def]
  rw [if_pos hlt]
  omega

/-- An empty interval names the page that starts where it stands, if one does. -/
theorem mem_startingIn_of_le (hpos : 0 < pageSize) {range : Interval}
    (hle : range.stop ≤ range.start) {page : Nat} :
    page ∈ startingIn range pageSize ↔ page * pageSize = range.start := by
  simp only [startingIn, Interval.mem_def]
  rw [if_neg (by omega)]
  by_cases haligned : range.start % pageSize = 0
  · obtain ⟨first, hfirst⟩ := Nat.dvd_of_mod_eq_zero haligned
    have hcount : count range.start pageSize = first := by
      apply Nat.le_antisymm
      · exact (count_le_iff hpos).mpr (Nat.le_of_eq (by rw [hfirst, Nat.mul_comm]))
      · have hreach : range.start ≤ count range.start pageSize * pageSize :=
          (count_le_iff hpos).mp (Nat.le_refl _)
        refine Nat.le_of_mul_le_mul_left ?_ hpos
        calc
          pageSize * first = range.start := hfirst.symm
          _ ≤ count range.start pageSize * pageSize := hreach
          _ = pageSize * count range.start pageSize := Nat.mul_comm ..
    have hplace : page * pageSize = range.start ↔ page = first := by
      rw [hfirst, Nat.mul_comm, Nat.mul_left_cancel_iff hpos]
    rw [if_pos haligned, hcount, hplace]
    omega
  · -- no page starts there
    have hne : page * pageSize ≠ range.start := by
      intro hpage
      exact haligned (by rw [← hpage, Nat.mul_mod_left])
    rw [if_neg haligned]
    omega

theorem mem_startingIn (hpos : 0 < pageSize) {range : Interval} {page : Nat} :
    page ∈ startingIn range pageSize ↔
      page * pageSize ∈ range ∨ range.stop ≤ range.start ∧ page * pageSize = range.start := by
  by_cases hlt : range.start < range.stop
  · rw [mem_startingIn_of_lt hpos hlt, or_iff_left]
    omega
  · have hle : range.stop ≤ range.start := Nat.le_of_not_lt hlt
    rw [mem_startingIn_of_le hpos hle, Interval.mem_def]
    omega

/-! ## The intervals of a list of pages -/

/-- An interval made of pages: it starts with a page, is not empty, and ends with a page
or with the sequence. -/
structure FetchRange (pageSize total : Nat) (pages : List Nat) (range : Interval) : Prop where
  start_mem : ∃ page ∈ pages, range.start = page * pageSize
  nonempty : range.start < range.stop
  stop_le : range.stop ≤ total
  stop_eq : range.stop = total ∨ pageSize ∣ range.stop

theorem FetchRange.aligned {pages : List Nat} {range : Interval}
    (hrange : FetchRange pageSize total pages range) : range.start % pageSize = 0 := by
  obtain ⟨page, _, hstart⟩ := hrange.start_mem
  rw [hstart, Nat.mul_mod_left]

theorem FetchRange.mono {pages more : List Nat} {range : Interval}
    (hrange : FetchRange pageSize total pages range) (hsub : pages ⊆ more) :
    FetchRange pageSize total more range := by
  obtain ⟨page, hpage, hstart⟩ := hrange.start_mem
  exact ⟨⟨page, hsub hpage, hstart⟩, hrange.nonempty, hrange.stop_le, hrange.stop_eq⟩

/-- A page that starts in such an interval lies in it as far as it exists. -/
theorem FetchRange.stop_span_le {pages : List Nat} {range : Interval} {page : Nat}
    (hrange : FetchRange pageSize total pages range) (hpage : page * pageSize ∈ range) :
    (span page pageSize total).stop ≤ range.stop := by
  rw [Interval.mem_def] at hpage
  have hstop := hrange.stop_le
  rw [stop_span (by omega)]
  rcases hrange.stop_eq with htotal | ⟨pages, hpages⟩
  · omega
  · -- the range ends with a page, so not before the page that it contains
    have hlt : page < pages := by
      rw [hpages, Nat.mul_comm pageSize] at hpage
      exact Nat.lt_of_mul_lt_mul_right hpage.2
    have := stop_le_start pageSize hlt
    rw [hpages, Nat.mul_comm pageSize]
    omega

theorem fetchRange_span (hpos : 0 < pageSize) {page : Nat} {pages : List Nat}
    (hpage : page ∈ pages) (hnonempty : ¬ (span page pageSize total).isEmpty = true) :
    FetchRange pageSize total pages (span page pageSize total) := by
  rw [isEmpty_span hpos] at hnonempty
  refine ⟨⟨page, hpage, rfl⟩, ?_, ?_, ?_⟩
  · simp only [span]
    omega
  · simp only [span]
    omega
  · rw [stop_span (by omega)]
    rcases Nat.le_total total (page * pageSize + pageSize) with hle | hle
    · exact Or.inl (Nat.min_eq_right hle)
    · refine Or.inr ⟨page + 1, ?_⟩
      rw [Nat.min_eq_left hle, Nat.mul_comm pageSize, Nat.succ_mul]

theorem fetchRange_of_mem_coalesce (hpos : 0 < pageSize) (pages : List Nat) :
    ∀ range ∈ coalesce pageSize total pages, FetchRange pageSize total pages range := by
  induction pages with
  | nil => simp [coalesce]
  | cons page rest ih =>
      have hrest : ∀ range ∈ coalesce pageSize total rest,
          FetchRange pageSize total (page :: rest) range := fun range hmem =>
        (ih range hmem).mono (List.subset_cons_self page rest)
      simp only [coalesce]
      split_ifs with hempty
      · exact hrest
      · have hspan := fetchRange_span hpos (List.mem_cons_self (a := page) (l := rest)) hempty
        cases hcoalesce : coalesce pageSize total rest with
        | nil => simpa using hspan
        | cons next others =>
            rw [hcoalesce, List.forall_mem_cons] at hrest
            dsimp only
            split_ifs with hmeet
            · -- the page is joined to the interval that starts where it ends
              have hjoined : FetchRange pageSize total (page :: rest)
                  ⟨(span page pageSize total).start, next.stop⟩ :=
                ⟨hspan.start_mem, by have := hspan.nonempty; have := hrest.1.nonempty; simp; omega,
                  hrest.1.stop_le, hrest.1.stop_eq⟩
              exact List.forall_mem_cons.mpr ⟨hjoined, hrest.2⟩
            · exact List.forall_mem_cons.mpr ⟨hspan, List.forall_mem_cons.mpr hrest⟩

/-- Putting a page in front covers the span of that page as well. -/
theorem covered_coalesce_cons (hpos : 0 < pageSize) (page : Nat) (rest : List Nat) (index : Nat) :
    (∃ range ∈ coalesce pageSize total (page :: rest), index ∈ range) ↔
      index ∈ span page pageSize total ∨ ∃ range ∈ coalesce pageSize total rest, index ∈ range := by
  simp only [coalesce]
  split_ifs with hempty
  · -- a page past the end covers nothing
    have hnot : index ∉ span page pageSize total := by
      rw [Interval.isEmpty, decide_eq_true_eq] at hempty
      rw [Interval.mem_def]
      omega
    rw [or_iff_right hnot]
  · have hitems := fetchRange_span hpos (List.mem_cons_self (a := page) (l := rest)) hempty
    have hranges : ∀ range ∈ coalesce pageSize total rest, FetchRange pageSize total rest range :=
      fetchRange_of_mem_coalesce hpos rest
    cases hcoalesce : coalesce pageSize total rest with
    | nil => simp
    | cons next others =>
        rw [hcoalesce] at hranges
        have hnext := hranges next List.mem_cons_self
        dsimp only
        split_ifs with hmeet
        · have hjoin : index ∈ (⟨(span page pageSize total).start, next.stop⟩ : Interval) ↔
              index ∈ span page pageSize total ∨ index ∈ next := by
            have := hitems.nonempty
            have := hnext.nonempty
            simp only [Interval.mem_def]
            omega
          simp only [List.mem_cons, exists_eq_or_imp, hjoin, or_assoc]
        · simp only [List.mem_cons, exists_eq_or_imp]

/-- The intervals of a list of pages cover the existing items of those pages. -/
theorem mem_coalesce (hpos : 0 < pageSize) (pages : List Nat) (index : Nat) :
    (∃ range ∈ coalesce pageSize total pages, index ∈ range) ↔
      ofIndex index pageSize ∈ pages ∧ index < total := by
  induction pages with
  | nil => simp [coalesce]
  | cons page rest ih =>
      rw [covered_coalesce_cons hpos, ih, mem_span hpos, List.mem_cons, or_and_right]

/-- The intervals of ascending pages ascend, with a gap between each two. -/
theorem coalesce_ascending (hpos : 0 < pageSize) {pages : List Nat}
    (hpages : pages.Pairwise (· < ·)) :
    (coalesce pageSize total pages).Pairwise fun first second => first.stop < second.start := by
  induction pages with
  | nil => simp [coalesce]
  | cons page rest ih =>
      obtain ⟨hhead, hrest⟩ := List.pairwise_cons.mp hpages
      -- every interval of the rest starts with a later page
      have hlater : ∀ range ∈ coalesce pageSize total rest,
          (span page pageSize total).stop ≤ range.start := by
        intro range hrange
        obtain ⟨later, hmem, hstart⟩ :=
          (fetchRange_of_mem_coalesce hpos rest range hrange).start_mem
        have := stop_le_start pageSize (hhead later hmem)
        rw [hstart]
        simp only [span]
        omega
      simp only [coalesce]
      split_ifs with hempty
      · exact ih hrest
      · have hranges : ∀ range ∈ coalesce pageSize total rest,
            FetchRange pageSize total rest range := fetchRange_of_mem_coalesce hpos rest
        have hpairwise := ih hrest
        cases hcoalesce : coalesce pageSize total rest with
        | nil => simp
        | cons next others =>
            rw [hcoalesce] at hlater hranges hpairwise
            obtain ⟨hothers, htail⟩ := List.pairwise_cons.mp hpairwise
            have hnext := hlater next List.mem_cons_self
            have hnonempty := (hranges next List.mem_cons_self).nonempty
            dsimp only
            split_ifs with hmeet
            · -- joined, it ends where the next interval ended
              exact List.pairwise_cons.mpr ⟨hothers, htail⟩
            · -- not joined, because there is a gap
              refine List.pairwise_cons.mpr ⟨?_, hpairwise⟩
              intro range hrange
              rcases List.mem_cons.mp hrange with rfl | hrange
              · omega
              · have := hothers range hrange
                omega

/-- Pages that follow each other are fetched at once: of ascending pages that are a page
or the one after it, no two intervals are made. -/
theorem length_coalesce_le_one (hpos : 0 < pageSize) {pages : List Nat} {first : Nat}
    (hpages : pages.Pairwise (· < ·)) (hnear : ∀ page ∈ pages, page = first ∨ page = first + 1) :
    (coalesce pageSize total pages).length ≤ 1 := by
  have hascending : (coalesce pageSize total pages).Pairwise fun lower upper =>
      lower.stop < upper.start :=
    coalesce_ascending hpos hpages
  have hranges : ∀ range ∈ coalesce pageSize total pages, FetchRange pageSize total pages range :=
    fetchRange_of_mem_coalesce hpos pages
  have hcover : ∀ index, (∃ range ∈ coalesce pageSize total pages, index ∈ range) ↔
      ofIndex index pageSize ∈ pages ∧ index < total :=
    mem_coalesce hpos pages
  match hcoalesce : coalesce pageSize total pages with
  | [] => exact Nat.zero_le 1
  | [_] => exact Nat.le_refl 1
  | lower :: upper :: rest =>
      rw [hcoalesce] at hascending hranges hcover
      have hgap : lower.stop < upper.start :=
        (List.pairwise_cons.mp hascending).1 upper (by simp)
      obtain ⟨page, hpage, hstart⟩ := (hranges lower (by simp)).start_mem
      obtain ⟨other, hother, hupper⟩ := (hranges upper (by simp)).start_mem
      have hlower := (hranges lower (by simp)).nonempty
      have hnonempty := (hranges upper (by simp)).nonempty
      have htotal := (hranges upper (by simp)).stop_le
      -- the lower interval starts the earlier page, so the item in the gap is one of its own
      have hlt : page < other := by
        by_contra hle
        have := Nat.mul_le_mul_right pageSize (Nat.le_of_not_lt hle)
        omega
      have hnext : other = page + 1 := by
        have := hnear page hpage
        have := hnear other hother
        omega
      rw [hnext, Nat.succ_mul] at hupper
      have hgapPage : ofIndex lower.stop pageSize = page :=
        (ofIndex_eq_iff hpos).mpr ⟨by omega, by omega⟩
      obtain ⟨range, hrange, hmem⟩ := (hcover lower.stop).mpr ⟨hgapPage ▸ hpage, by omega⟩
      -- but no interval holds it
      rw [Interval.mem_def] at hmem
      have hapart := List.pairwise_cons.mp hascending
      rcases List.mem_cons.mp hrange with rfl | hrange
      · omega
      · rcases List.mem_cons.mp hrange with rfl | hrest
        · omega
        · have := (List.pairwise_cons.mp hapart.2).1 range hrest
          omega

@[simp]
theorem coalesce_nil : coalesce pageSize total [] = [] := rfl

end TraceViewer.Page
