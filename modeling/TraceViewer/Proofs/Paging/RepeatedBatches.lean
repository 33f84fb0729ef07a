import TraceViewer.Proofs.Paging.AlignedHistory

/-!
# Repeated batches

A batch that was merged once brings nothing new the second time: the total and the items are
those of the batch, and no page is left whose mark the batch would take
(`contains_merge`).  Merging it again therefore leaves the sequence as it is
(`merge_of_contains`).

In between the window may be asked for, and it may ask for a page that the batch covers in
part.  Such a page is marked up to an end that the batch does not reach, for a page that
the batch covers up to that end would be complete (`contains_markInFlight`).

A window that was asked for asks for nothing the second time (`satisfied_resolveWindow`).
-/

namespace TraceViewer

/-- What is held already is not entered again. -/
theorem insert_of_held {κ ν : Type} [Ord κ] [Std.TransOrd κ] [Std.LawfulEqOrd κ]
    {map : Std.ExtTreeMap κ ν} {key : κ} {value : ν} (hheld : map[key]? = some value) :
    map.insert key value = map := by
  refine Std.ExtTreeMap.ext_getElem? fun other => ?_
  rw [Std.ExtTreeMap.getElem?_insert]
  split_ifs with hsame
  · rw [← Std.LawfulEqOrd.compare_eq_iff_eq.mp hsame, hheld]
  · rfl

namespace PagedSequence

variable {α : Type} {sequence : PagedSequence α} {batch : Batch α}

/-! ## Items that are held -/

/-- Whether consecutive items are held from an index on. -/
def Holds (sequence : PagedSequence α) (start : Nat) (items : List α) : Prop :=
  ∀ (offset : Nat) (item : α), items[offset]? = some item →
    sequence.items[start + offset]? = some item

theorem put_of_held {index : Nat} {item : α} (hheld : sequence.items[index]? = some item) :
    sequence.put index item = sequence := by
  have hmem : index ∈ sequence.items := by
    rw [Std.ExtTreeMap.mem_iff_isSome_getElem?, hheld]
    rfl
  rw [put, if_pos hmem, insert_of_held hheld]

theorem putAll_of_holds {start : Nat} {items : List α} (hholds : sequence.Holds start items) :
    sequence.putAll start items = sequence := by
  induction items generalizing start with
  | nil => rfl
  | cons item rest ih =>
      have hfirst : sequence.put start item = sequence := put_of_held (hholds 0 item rfl)
      rw [putAll, hfirst]
      refine ih fun offset other hother => ?_
      rw [Nat.add_right_comm]
      exact hholds (offset + 1) other hother

theorem holds_putAll (sequence : PagedSequence α) (start : Nat) (items : List α) :
    (sequence.putAll start items).Holds start items := by
  intro offset item hitem
  have hlt := (List.getElem?_eq_some_iff.mp hitem).1
  rw [getElem?_putAll, if_pos ⟨by omega, by omega⟩, Nat.add_sub_cancel_left, hitem]

/-! ## Batches -/

/-- Whether a sequence has all that a batch brings, and no mark that the batch takes. -/
structure Contains (sequence : PagedSequence α) (batch : Batch α) : Prop where
  accepts : sequence.Accepts batch
  total_eq : batch.total = sequence.numItems
  holds : sequence.Holds batch.range.start batch.items
  kept : ∀ {page requestedEnd : Nat}, sequence.inFlight[page]? = some requestedEnd →
    sequence.releases batch.range page requestedEnd = false

/-- An answer that releases no page leaves the sequence as it is. -/
theorem release_of_kept {range : Interval}
    (hkept : ∀ {page requestedEnd : Nat}, sequence.inFlight[page]? = some requestedEnd →
      sequence.releases range page requestedEnd = false) :
    (sequence.release range).1 = sequence := by
  have hmarks : (sequence.release range).1.inFlight = sequence.inFlight := by
    refine Std.ExtTreeMap.ext_getElem? fun page => ?_
    rw [getElem?_inFlight_release]
    cases hmark : sequence.inFlight[page]? with
    | none => rfl
    | some requestedEnd => simp [hkept hmark]
  have hrest : (sequence.release range).1 =
      { sequence with inFlight := (sequence.release range).1.inFlight } := rfl
  rw [hrest, hmarks]

theorem merge_of_contains (hcontains : sequence.Contains batch) :
    (sequence.merge batch).1 = sequence := by
  obtain ⟨report, hmerge, _⟩ := merge_of_accepts hcontains.accepts
  have hstored : sequence.stored batch = sequence := by
    rw [stored, hcontains.total_eq]
    exact putAll_of_holds hcontains.holds
  rw [hmerge, hstored]
  exact release_of_kept hcontains.kept

theorem contains_merge (haccepts : sequence.Accepts batch) :
    (sequence.merge batch).1.Contains batch := by
  obtain ⟨report, hmerge, _⟩ := merge_of_accepts haccepts
  obtain ⟨_, horder, hcount, hstop⟩ := haccepts
  have hnumItems := sequence.numItems_stored batch
  rw [hmerge]
  exact
    { accepts := ⟨Nat.le_of_eq hnumItems, horder, hcount, hstop⟩
      total_eq := hnumItems.symm
      holds := holds_putAll _ batch.range.start batch.items
      kept := by
        -- the marks that are left are those that the batch did not take
        intro page requestedEnd hmark
        rw [getElem?_inFlight_release, Option.filter_eq_some_iff, Bool.not_eq_true'] at hmark
        exact hmark.2 }

/-- A page that is newly asked for is not released by a batch that is contained already. -/
theorem contains_markInFlight (hcontains : sequence.Contains batch)
    (hacc : sequence.Accounted) {demand : PageDemand} (hlacks : sequence.Lacks demand) :
    (sequence.markInFlight demand.pages).Contains batch where
  accepts := hcontains.accepts
  total_eq := hcontains.total_eq
  holds := hcontains.holds
  kept := by
    intro page requestedEnd hmark
    change sequence.releases batch.range page requestedEnd = false
    rw [getElem?_markInFlight] at hmark
    split_ifs at hmark with hasked
    · cases hmark
      have hincomplete := hlacks.not_complete page hasked
      rw [releases, hincomplete, Bool.or_false, Bool.and_eq_false_iff, decide_eq_false_iff_not,
        decide_eq_false_iff_not]
      by_contra hreleased
      rw [not_or, not_not, not_not, Page.mem_startingIn sequence.pageSize_pos,
        Interval.mem_def] at hreleased
      obtain ⟨hstarts, hreaches⟩ := hreleased
      have hlt := hlacks.lt_numItems page hasked
      obtain ⟨_, horder, hcount, _⟩ := hcontains.accepts
      rw [Interval.length] at hcount
      -- the batch would hold the whole page
      refine Bool.eq_false_iff.mp hincomplete (hacc.isPageComplete_iff.mpr ⟨hlt, ?_⟩)
      intro index hindex
      rw [Interval.mem_def] at hindex
      have hstart : (Page.span page sequence.pageSize sequence.numItems).start =
          page * sequence.pageSize := rfl
      have hoffset : index - batch.range.start < batch.items.length := by omega
      have hitem := hcontains.holds _ _ (List.getElem?_eq_getElem hoffset)
      rw [Nat.add_sub_cancel' (by omega)] at hitem
      rw [Std.ExtTreeMap.mem_iff_isSome_getElem?, hitem]
      rfl
    · exact hcontains.kept hmark

/-! ## Windows -/

/-- The pages that were asked for are being fetched, and so they are not asked for again. -/
theorem requestWindow_again {window : Interval} {after : PagedSequence α} {demand : PageDemand}
    (hasked : sequence.requestWindow window = (after, .ok demand)) :
    after.requestWindow window = (after, .ok {}) := by
  rcases requestWindow_cases hasked with ⟨_, rfl, rfl⟩ | ⟨hadmits, rfl, rfl⟩
  · exact hasked
  · let marked := sequence.markInFlight (sequence.demandOf window).pages
    change marked.requestWindow window = (marked, .ok {})
    have hadmits : marked.Admits window := ⟨hadmits.lt, hadmits.stop_le, hadmits.length_le⟩
    have hnone : marked.demandOf window = {} := by
      have hpages : ((Page.missingOf window marked.pageSize marked.numItems
          marked.loadedSizes).filter fun page => !marked.isInFlight page) = [] := by
        rw [List.filter_eq_nil_iff]
        intro page hpage
        rw [Bool.not_eq_true', Bool.not_eq_false, isInFlight_markInFlight]
        by_cases hmarked : sequence.isInFlight page = true
        · exact Or.inr hmarked
        · exact Or.inl (List.mem_filter.mpr ⟨hpage, by simp [hmarked]⟩)
      rw [demandOf, hpages]
      rfl
    rw [requestWindow_eq hadmits, hnone]
    rfl

end PagedSequence

namespace PagedView

variable {α : Type} {view after : PagedView α} {demand : PageDemand}

/-- Whether asking for the window changes nothing and asks for nothing. -/
def Satisfied (view : PagedView α) : Prop := view.resolveWindow = (view, .ok {})

theorem satisfied_resolveWindow (hresolved : view.resolveWindow = (after, .ok demand)) :
    after.Satisfied := by
  rw [resolveWindow] at hresolved
  split_ifs at hresolved with hshown
  · cases hresolved
    rw [Satisfied, resolveWindow, if_pos hshown]
  · rcases hasked : view.sequence.requestWindow view.visibleRange with ⟨sequence, result⟩
    rw [hasked] at hresolved
    cases hresolved
    have hnumItems : sequence.numItems = view.sequence.numItems := by
      rcases PagedSequence.requestWindow_cases hasked with ⟨_, rfl, _⟩ | ⟨_, rfl, _⟩ <;> rfl
    have hrange : { view with sequence }.visibleRange = view.visibleRange :=
      congrArg view.window.visibleRange hnumItems
    rw [Satisfied, resolveWindow, hrange, if_neg hshown, PagedSequence.requestWindow_again hasked]

/-- The focus makes no difference to the window. -/
theorem satisfied_setFocus (hsatisfied : view.Satisfied) (focus : Option Nat) :
    (view.setFocus focus).Satisfied := by
  obtain ⟨sequence, window⟩ := view
  have hrange : (setFocus ⟨sequence, window⟩ focus).visibleRange =
      visibleRange ⟨sequence, window⟩ := rfl
  have hsequence : (setFocus ⟨sequence, window⟩ focus).sequence = sequence := rfl
  rw [Satisfied, resolveWindow] at hsatisfied ⊢
  rw [hrange, hsequence]
  split_ifs at hsatisfied ⊢ with hshown
  · rfl
  · rcases hasked : sequence.requestWindow (visibleRange ⟨sequence, window⟩) with ⟨after, result⟩
    rw [hasked] at hsatisfied
    cases hsatisfied
    rfl

theorem window_resolveWindow (view : PagedView α) : view.resolveWindow.1.window = view.window := by
  rw [resolveWindow]
  split_ifs <;> rfl

theorem setNumItems_of_satisfied (hsatisfied : view.Satisfied) :
    view.setNumItems view.numItems = (view, .ok {}) := by
  have hkept : ¬ view.numItems < view.sequence.numItems := Nat.lt_irrefl _
  rw [setNumItems, PagedSequence.setNumItems, if_neg hkept]
  exact hsatisfied

end PagedView

end TraceViewer
