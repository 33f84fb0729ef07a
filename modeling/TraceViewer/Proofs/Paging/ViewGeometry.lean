import TraceViewer.Proofs.Paging.ExactAccounts
import TraceViewer.Session.Timeline

/-!
# The geometry of a view

How a sequence is paged and how much of it is shown at once is laid down when its view is
made.  No operation touches the page size or the width of the window
(`geometry_performAll`), so a window that fits a page at the start always does.

That alone answers for every window a view asks for (`resolveWindow_of_fits`).  The visible
range is cut off at the end of the sequence, so it ends inside it and is no wider than the
window.  Where the window stands does not matter: a recentring may put it past the end,
where nothing is visible and nothing is asked for, and a later total may bring it into view
in part.  Hence two operations only are ever refused, each for its own argument
(`Obliging`): a jump past the last full window, and a total below the present one.

A window that was never recentred stands inside the sequence (`inside_performAll`): steps
and jumps stop at the last full window, and a total that grows only moves that further out.
-/

namespace TraceViewer

namespace PagedView

variable {α : Type}

/-! ## The geometry -/

/-- How the sequence of a view is paged and shown. -/
def geometry (view : PagedView α) : Geometry where
  pageSize := view.sequence.pageSize
  displayCount := view.window.displayCount

/-- Two views have the same geometry when their page sizes and their widths agree. -/
theorem geometry_eq {before after : PagedView α}
    (hsize : after.sequence.pageSize = before.sequence.pageSize)
    (hcount : after.window.displayCount = before.window.displayCount) :
    after.geometry = before.geometry := by
  rw [geometry, hsize, hcount]
  rfl

theorem fits_of_valid {view : PagedView α} (hvalid : view.geometry.Valid) : view.Fits := hvalid.2

theorem geometry_resolveWindow (view : PagedView α) :
    view.resolveWindow.1.geometry = view.geometry := by
  rw [resolveWindow]
  split_ifs with hshown
  · rfl
  · exact geometry_eq (PagedSequence.pageSize_perform view.sequence (.requestWindow _)) rfl

theorem geometry_moveTo {view : PagedView α} {target : Option ScrollWindow}
    (htarget : ∀ window ∈ target, window.displayCount = view.window.displayCount) :
    (view.moveTo target).1.geometry = view.geometry := by
  cases target with
  | none => rfl
  | some window =>
      rw [moveTo, geometry_resolveWindow]
      exact geometry_eq rfl (htarget window rfl)

theorem geometry_setNumItems (view : PagedView α) (total : Nat) :
    (view.setNumItems total).1.geometry = view.geometry := by
  rw [setNumItems, PagedSequence.setNumItems]
  split_ifs with hshrunk
  · rfl
  · rw [geometry_resolveWindow]
    rfl

theorem geometry_merge (view : PagedView α) (batch : Batch α) :
    (view.merge batch).1.geometry = view.geometry :=
  geometry_eq (PagedSequence.pageSize_merge view.sequence batch) rfl

end PagedView

theorem Timeline.geometry_moveView {α : Type} (view : PagedView α) (step : ScrollStep) :
    (moveView view step).1.geometry = view.geometry := by
  cases step with
  | left =>
      refine PagedView.geometry_moveTo ?_
      unfold ScrollWindow.scrollLeft?
      split_ifs <;> simp
  | right =>
      refine PagedView.geometry_moveTo ?_
      unfold ScrollWindow.scrollRight?
      split_ifs <;> simp
  | toIndex index =>
      rw [moveView, PagedView.scrollTo, ScrollWindow.scrollTo]
      split_ifs with hpast
      · rfl
      · exact PagedView.geometry_moveTo (by simp)
  | recenter index => exact PagedView.geometry_moveTo (by simp [ScrollWindow.recenter])

namespace PagedView

variable {α : Type} {view : PagedView α}

/-! ## Histories -/

/-- One operation on a paged view. -/
inductive Act (α : Type) where
  | resolveWindow
  | scroll (step : ScrollStep)
  | setFocus (focus : Option Nat)
  | setNumItems (total : Nat)
  | merge (batch : Batch α)
  | failFetch (range : Interval)

/-- Carry out an operation, accepted or not. -/
def perform (view : PagedView α) : Act α → PagedView α
  | .resolveWindow => view.resolveWindow.1
  | .scroll step => (Timeline.moveView view step).1
  | .setFocus focus => view.setFocus focus
  | .setNumItems total => (view.setNumItems total).1
  | .merge batch => (view.merge batch).1
  | .failFetch range => (view.failFetch range).1

/-- Carry out operations, one after the other. -/
def performAll (view : PagedView α) (acts : List (Act α)) : PagedView α :=
  acts.foldl perform view

theorem geometry_perform (view : PagedView α) (act : Act α) :
    (view.perform act).geometry = view.geometry := by
  cases act with
  | resolveWindow => exact view.geometry_resolveWindow
  | scroll step => exact Timeline.geometry_moveView view step
  | setNumItems total => exact view.geometry_setNumItems total
  | merge batch => exact view.geometry_merge batch
  | setFocus | failFetch => rfl

theorem geometry_performAll (view : PagedView α) (acts : List (Act α)) :
    (view.performAll acts).geometry = view.geometry := by
  induction acts generalizing view with
  | nil => rfl
  | cons act rest ih => exact (ih (view.perform act)).trans (view.geometry_perform act)

theorem fits_performAll (hfits : view.Fits) (acts : List (Act α)) :
    (view.performAll acts).Fits := by
  -- neither the width of the window nor the size of a page changes
  have hgeometry := view.geometry_performAll acts
  have hsize : (view.performAll acts).sequence.pageSize = view.sequence.pageSize :=
    congrArg Geometry.pageSize hgeometry
  have hcount : (view.performAll acts).window.displayCount = view.window.displayCount :=
    congrArg Geometry.displayCount hgeometry
  calc (view.performAll acts).window.displayCount
      = view.window.displayCount := hcount
    _ ≤ view.sequence.pageSize := hfits
    _ = (view.performAll acts).sequence.pageSize := hsize.symm

/-! ## What a view does not refuse -/

/-- An operation is carried out: it asks for the window, which then stands as `window` says
over a sequence of `total` items. -/
def CarriesOut (result : PagedView α × Except ViewError PageDemand) (window : ScrollWindow)
    (total : Nat) : Prop :=
  ∃ after demand, result = (after, .ok demand) ∧ after.window = window ∧ after.numItems = total

/-- A window that fits a page can be asked for. -/
theorem carriesOut_resolveWindow (hfits : view.Fits) :
    CarriesOut view.resolveWindow view.window view.numItems := by
  by_cases hshown : view.visibleRange.isEmpty = true
  · exact ⟨view, {}, by rw [resolveWindow, if_pos hshown], rfl, rfl⟩
  · -- the visible range is cut off at the end, so it passes every check of the pages
    have hasked := PagedSequence.requestWindow_eq (admits_visibleRange hfits hshown)
    refine ⟨{ view with sequence := (view.sequence.requestWindow view.visibleRange).1 },
      view.sequence.demandOf view.visibleRange, ?_, rfl, ?_⟩
    · rw [resolveWindow, if_neg hshown, hasked]
    · rw [hasked]
      rfl

theorem resolveWindow_of_fits (hfits : view.Fits) :
    ∃ after demand, view.resolveWindow = (after, .ok demand) := by
  obtain ⟨after, demand, hresolve, _⟩ := carriesOut_resolveWindow hfits
  exact ⟨after, demand, hresolve⟩

theorem carriesOut_moveTo_some (hfits : view.Fits) {window : ScrollWindow}
    (hcount : window.displayCount = view.window.displayCount) :
    CarriesOut (view.moveTo (some window)) window view.numItems := by
  have hmoved : { view with window }.Fits := Nat.le_trans (Nat.le_of_eq hcount) hfits
  exact carriesOut_resolveWindow hmoved

theorem carriesOut_scrollLeft (hfits : view.Fits) :
    CarriesOut view.scrollLeft
      { view.window with scrollBegin := view.window.scrollBegin - 1 } view.numItems := by
  rw [scrollLeft, ScrollWindow.scrollLeft?]
  split_ifs with hstart
  · refine ⟨view, {}, rfl, ?_, rfl⟩
    rw [hstart, Nat.zero_sub, ← hstart]
  · exact carriesOut_moveTo_some hfits rfl

theorem carriesOut_scrollRight (hfits : view.Fits) :
    CarriesOut view.scrollRight
      (if view.numItems ≤ view.window.scrollBegin + view.window.displayCount then view.window
        else { view.window with scrollBegin := view.window.scrollBegin + 1 }) view.numItems := by
  rw [scrollRight, ScrollWindow.scrollRight?]
  split_ifs with hlast
  · exact ⟨view, {}, rfl, rfl, rfl⟩
  · exact carriesOut_moveTo_some hfits rfl

theorem carriesOut_scrollTo (hfits : view.Fits) {index : Nat}
    (hindex : index ≤ view.numItems - view.window.displayCount) :
    CarriesOut (view.scrollTo index) { view.window with scrollBegin := index } view.numItems := by
  have hshows : ¬ view.window.maxScrollBegin view.numItems < index := Nat.not_lt.mpr hindex
  rw [scrollTo, ScrollWindow.scrollTo, if_neg hshows]
  exact carriesOut_moveTo_some hfits rfl

theorem carriesOut_setNumItems (hfits : view.Fits) {total : Nat} (hle : view.numItems ≤ total) :
    CarriesOut (view.setNumItems total) view.window total := by
  have hkept : ¬ total < view.sequence.numItems := Nat.not_lt.mpr hle
  have hgrown : { view with sequence := { view.sequence with numItems := total } }.Fits := hfits
  rw [setNumItems, PagedSequence.setNumItems, if_neg hkept]
  exact carriesOut_resolveWindow hgrown

theorem scrollTo_of_lt {index : Nat} (hlt : view.numItems - view.window.displayCount < index) :
    view.scrollTo index =
      (view, .error (.outOfRange index (view.numItems - view.window.displayCount))) := by
  have hpast : view.window.maxScrollBegin view.numItems < index := hlt
  rw [scrollTo, ScrollWindow.scrollTo, if_pos hpast]
  rfl

/-- A movement is refused exactly when it is a jump past the last full window. -/
theorem moveView_cases (hfits : view.Fits) (step : ScrollStep) :
    (∃ index, step = .toIndex index ∧ view.numItems - view.window.displayCount < index ∧
      Timeline.moveView view step =
        (view, .error (.outOfRange index (view.numItems - view.window.displayCount)))) ∨
    ∃ window, CarriesOut (Timeline.moveView view step) window view.numItems := by
  cases step with
  | left => exact Or.inr ⟨_, carriesOut_scrollLeft hfits⟩
  | right => exact Or.inr ⟨_, carriesOut_scrollRight hfits⟩
  | recenter index => exact Or.inr ⟨view.window.recenter index, carriesOut_moveTo_some hfits rfl⟩
  | toIndex index =>
      rcases Nat.lt_or_ge (view.numItems - view.window.displayCount) index with hlt | hle
      · exact Or.inl ⟨index, rfl, hlt, scrollTo_of_lt hlt⟩
      · exact Or.inr ⟨_, carriesOut_scrollTo hfits hle⟩

/-- What a view refuses: a jump past the last full window, and a total below the present
one.  Both leave it as it is. -/
structure Obliging (view : PagedView α) : Prop where
  resolveWindow : CarriesOut view.resolveWindow view.window view.numItems
  scrollLeft : CarriesOut view.scrollLeft
    { view.window with scrollBegin := view.window.scrollBegin - 1 } view.numItems
  scrollRight : CarriesOut view.scrollRight
    (if view.numItems ≤ view.window.scrollBegin + view.window.displayCount then view.window
      else { view.window with scrollBegin := view.window.scrollBegin + 1 }) view.numItems
  recenter : ∀ index, CarriesOut (view.recenter index) (view.window.recenter index) view.numItems
  scrollTo : ∀ index, index ≤ view.numItems - view.window.displayCount →
    CarriesOut (view.scrollTo index) { view.window with scrollBegin := index } view.numItems
  scrollTo_past : ∀ index, view.numItems - view.window.displayCount < index →
    view.scrollTo index =
      (view, .error (.outOfRange index (view.numItems - view.window.displayCount)))
  setNumItems : ∀ total, view.numItems ≤ total →
    CarriesOut (view.setNumItems total) view.window total
  setNumItems_shrunk : ∀ total, total < view.numItems →
    view.setNumItems total = (view, .error (.consistencyViolation view.numItems total))

theorem obliging_of_fits (hfits : view.Fits) : view.Obliging where
  resolveWindow := carriesOut_resolveWindow hfits
  scrollLeft := carriesOut_scrollLeft hfits
  scrollRight := carriesOut_scrollRight hfits
  recenter := fun _ => carriesOut_moveTo_some hfits rfl
  scrollTo := fun _ hindex => carriesOut_scrollTo hfits hindex
  scrollTo_past := fun _ hlt => scrollTo_of_lt hlt
  setNumItems := fun _ hle => carriesOut_setNumItems hfits hle
  setNumItems_shrunk := fun _ hlt => setNumItems_of_lt hlt

/-! ## Where the window stands -/

/-- The window starts no later than the last full one, or at the start of a short sequence. -/
def Inside (view : PagedView α) : Prop :=
  view.window.scrollBegin ≤ view.numItems - view.window.displayCount

/-- What is carried out leaves the window inside when the window it goes to is. -/
theorem CarriesOut.inside {result : PagedView α × Except ViewError PageDemand}
    {window : ScrollWindow} {total : Nat} (hdone : CarriesOut result window total)
    (hinside : window.scrollBegin ≤ total - window.displayCount) : result.1.Inside := by
  obtain ⟨after, demand, rfl, rfl, rfl⟩ := hdone
  exact hinside

theorem inside_scrollTo (hinside : view.Inside) (hfits : view.Fits) (index : Nat) :
    (view.scrollTo index).1.Inside := by
  rcases Nat.lt_or_ge (view.numItems - view.window.displayCount) index with hlt | hle
  · rw [scrollTo_of_lt hlt]
    exact hinside
  · exact (carriesOut_scrollTo hfits hle).inside hle

theorem inside_scrollRight (hinside : view.Inside) (hfits : view.Fits) :
    view.scrollRight.1.Inside := by
  refine (carriesOut_scrollRight hfits).inside ?_
  unfold Inside at hinside
  split_ifs with hlast
  · exact hinside
  · show view.window.scrollBegin + 1 ≤ view.numItems - view.window.displayCount
    omega

theorem inside_setNumItems (hinside : view.Inside) (hfits : view.Fits) (total : Nat) :
    (view.setNumItems total).1.Inside := by
  rcases Nat.lt_or_ge total view.numItems with hlt | hle
  · rw [setNumItems_of_lt hlt]
    exact hinside
  · exact (carriesOut_setNumItems hfits hle).inside
      (Nat.le_trans hinside (Nat.sub_le_sub_right hle _))

theorem inside_merge (hinside : view.Inside) (batch : Batch α) : (view.merge batch).1.Inside := by
  have hgrows : view.numItems ≤ (view.merge batch).1.numItems :=
    view.sequence.numItems_le_perform (.merge batch)
  calc view.window.scrollBegin
      ≤ view.numItems - view.window.displayCount := hinside
    _ ≤ (view.merge batch).1.numItems - view.window.displayCount := Nat.sub_le_sub_right hgrows _

/-- No operation but a recentring takes the window out of the sequence. -/
theorem inside_perform (hinside : view.Inside) (hfits : view.Fits) {act : Act α}
    (hact : ∀ index, act ≠ .scroll (.recenter index)) : (view.perform act).Inside := by
  cases act with
  | resolveWindow => exact (carriesOut_resolveWindow hfits).inside hinside
  | scroll step =>
      cases step with
      | left =>
          exact (carriesOut_scrollLeft hfits).inside (Nat.le_trans (Nat.sub_le _ _) hinside)
      | right => exact inside_scrollRight hinside hfits
      | toIndex index => exact inside_scrollTo hinside hfits index
      | recenter index => exact absurd rfl (hact index)
  | setNumItems total => exact inside_setNumItems hinside hfits total
  | merge batch => exact inside_merge hinside batch
  | setFocus | failFetch => exact hinside

theorem inside_performAll (hinside : view.Inside) (hfits : view.Fits) {acts : List (Act α)}
    (hacts : ∀ index, .scroll (.recenter index) ∉ acts) : (view.performAll acts).Inside := by
  induction acts generalizing view with
  | nil => exact hinside
  | cons act rest ih =>
      refine ih (inside_perform hinside hfits ?_) (fits_performAll hfits [act]) ?_
      · intro index heq
        exact hacts index (heq ▸ List.mem_cons_self)
      · intro index hmem
        exact hacts index (List.mem_cons_of_mem act hmem)

/-! ## Every history of a valid view -/

theorem ofGeometry_of_valid {geometry : Geometry} (valid : geometry.Valid) :
    ofGeometry geometry = .ok (fresh geometry valid : PagedView α) := by
  unfold ofGeometry
  split
  · rename_i error hinvalid
    rw [Geometry.validate_eq_ok_iff.mpr valid] at hinvalid
    exact absurd hinvalid (by simp)
  · rfl

/-- A view can be made of every valid geometry.  Whatever is then done to it, it asks for its
window wherever that stands, refuses a jump exactly when it passes the last full window and a
total exactly when it is below the present one, and stands inside the sequence as long as
nobody recentres it. -/
theorem window_never_invalid (geometry : Geometry) (valid : geometry.Valid)
    (acts : List (Act α)) :
    let start : PagedView α := fresh geometry valid
    ofGeometry geometry = .ok start ∧ (start.performAll acts).Obliging ∧
      ((∀ index, .scroll (.recenter index) ∉ acts) → (start.performAll acts).Inside) := by
  intro start
  have hfits : start.Fits := valid.2
  have hinside : start.Inside := Nat.zero_le _
  exact ⟨ofGeometry_of_valid valid, obliging_of_fits (fits_performAll hfits acts),
    inside_performAll hinside hfits⟩

/-- A window that is recentred past the end and comes into view in part as the total grows,
and one that steps and jumps as far as it can. -/
theorem window_past_the_end_obliges :
    let start : PagedView Nat := fresh ⟨4, 3⟩ (by decide)
    let recentred := start.performAll
      [.setNumItems 5, .scroll (.recenter 9), .resolveWindow, .setNumItems 10]
    (recentred.visibleRange = ⟨8, 10⟩ ∧ ¬ recentred.Inside ∧ recentred.Obliging) ∧
      (start.performAll [.setNumItems 5, .scroll (.toIndex 2), .scroll .right]).Inside := by
  have hrecentred := window_never_invalid ⟨4, 3⟩ (by decide)
    ([.setNumItems 5, .scroll (.recenter 9), .resolveWindow, .setNumItems 10] : List (Act Nat))
  have hstepped := window_never_invalid ⟨4, 3⟩ (by decide)
    ([.setNumItems 5, .scroll (.toIndex 2), .scroll .right] : List (Act Nat))
  refine ⟨⟨by decide +kernel, ?_, hrecentred.2.1⟩, hstepped.2.2 (by simp)⟩
  unfold Inside
  decide +kernel

end PagedView

end TraceViewer
