import Mathlib.Tactic.Ring
import TraceViewer.Proofs.Session.Geometry
import TraceViewer.Proofs.Session.TimelinePromises

/-!
# The effort of a timeline

An answer may lead to further fetches: a total to a page, a record to its frames.  The
*effort* of a fetch says how much its answer can set off, itself included.

A timeline asks for one range of pages at most, whatever happens to it.  It does so when
its window moves, when a total arrives (`effort_scroll`, `effort_onTotal`), and when a page
arrives, but then only if the page makes a total known that was not.  That is the one thing
a timeline *needs* on its own account, and a page that asks uses it up (`effort_onPage`).
-/

namespace TraceViewer

/-! ## Fetches -/

/-- How much the answer to a request can set off, itself included. -/
def Request.effort : Request → Nat
  | .page _ _ | .stackFrames _ | .sourceFile _ => 1
  | .numExecutions | .numGraphExecutions | .executionData _ | .graphOpInfo _ | .sourceFileList
  | .alertsOfType _ _ => 2
  | .numAlertsAndBreakdown => 3

/-- As `Request.effort`; a listing can lead to another run, which is asked everything
anew. -/
def PendingFetch.effort : PendingFetch → Nat
  | .runs => 16
  | .data _ request => request.effort

/-- How much the answers to a queue can set off. -/
def effortOf (queue : List PendingFetch) : Nat := (queue.map PendingFetch.effort).sum

@[simp]
theorem effortOf_nil : effortOf [] = 0 := rfl

@[simp]
theorem effortOf_cons (fetch : PendingFetch) (queue : List PendingFetch) :
    effortOf (fetch :: queue) = fetch.effort + effortOf queue := by
  simp [effortOf]

@[simp]
theorem effortOf_append (first second : List PendingFetch) :
    effortOf (first ++ second) = effortOf first + effortOf second := by
  simp [effortOf]

theorem PendingFetch.effort_pos (fetch : PendingFetch) : 0 < fetch.effort := by
  rcases fetch with _ | ⟨run, request⟩
  · decide
  · cases request <;> simp [effort, Request.effort]

/-- Every fetch is worth something, so a queue is not longer than its effort. -/
theorem length_le_effortOf (queue : List PendingFetch) : queue.length ≤ effortOf queue := by
  induction queue with
  | nil => exact Nat.le_refl 0
  | cons fetch rest ih =>
      have := fetch.effort_pos
      rw [List.length_cons, effortOf_cons]
      omega

/-! ## Views -/

namespace PagedView

variable {α : Type}

/-- What asking does not touch, and that it asks for one range at most. -/
structure Polls (before after : PagedView α) (result : Except ViewError PageDemand) : Prop where
  numItems_eq : after.numItems = before.numItems
  focus_eq : after.window.focus = before.window.focus
  one_range : ∀ {demand : PageDemand}, result = .ok demand → demand.ranges.length ≤ 1

theorem polls_nothing (view : PagedView α) : view.Polls view (.ok {}) where
  numItems_eq := rfl
  focus_eq := rfl
  one_range := by
    rintro demand ⟨⟩
    exact Nat.zero_le 1

theorem polls_resolveWindow (view : PagedView α) :
    view.Polls view.resolveWindow.1 view.resolveWindow.2 := by
  rw [resolveWindow]
  split_ifs with hshown
  · exact view.polls_nothing
  · rcases hrequest : view.sequence.requestWindow view.visibleRange with ⟨after, error | demand⟩
    · rw [PagedSequence.requestWindow] at hrequest
      split at hrequest
      · cases hrequest
        exact ⟨rfl, rfl, by rintro demand ⟨⟩⟩
      · cases hrequest
    · rcases PagedSequence.requestWindow_cases hrequest with ⟨_, rfl, rfl⟩ | ⟨hadmits, rfl, rfl⟩
      · exact ⟨rfl, rfl, by rintro demand ⟨⟩; exact Nat.zero_le 1⟩
      · exact ⟨rfl, rfl, by rintro demand ⟨⟩; exact hadmits.length_ranges_demandOf⟩

theorem polls_moveTo {view : PagedView α} {target : Option ScrollWindow}
    (htarget : ∀ window ∈ target, window.focus = view.window.focus) :
    view.Polls (view.moveTo target).1 (view.moveTo target).2 := by
  cases target with
  | none => exact view.polls_nothing
  | some window =>
      have hpolls := { view with window }.polls_resolveWindow
      exact ⟨hpolls.numItems_eq, hpolls.focus_eq.trans (htarget window rfl), hpolls.one_range⟩

end PagedView

/-! ## Timelines -/

namespace Timeline

variable {α : Type}

/-- A page is still needed when the total is not known up to `limit`. -/
def needs (limit : Nat) (timeline : Timeline α) : Nat :=
  if timeline.numItems < limit then 1 else 0

theorem effort_totalRequest (kind : SequenceKind) : (totalRequest kind).effort = 2 := by
  cases kind <;> rfl

theorem needs_le (limit : Nat) (timeline : Timeline α) : timeline.needs limit ≤ 1 := by
  rw [needs]
  split_ifs <;> decide

theorem needs_of_known {limit : Nat} {timeline : Timeline α} (hknown : timeline.numItems = limit) :
    timeline.needs limit = 0 := by
  rw [needs, if_neg (by omega)]

theorem needs_congr {before after : Timeline α} (hsame : after.numItems = before.numItems)
    (limit : Nat) : after.needs limit = before.needs limit := by
  rw [needs, needs, hsame]

theorem polls_moveView (view : PagedView α) (step : ScrollStep) :
    view.Polls (moveView view step).1 (moveView view step).2 := by
  cases step with
  | left =>
      refine PagedView.polls_moveTo ?_
      unfold ScrollWindow.scrollLeft?
      split_ifs <;> simp
  | right =>
      refine PagedView.polls_moveTo ?_
      unfold ScrollWindow.scrollRight?
      split_ifs <;> simp
  | toIndex index =>
      rw [moveView, PagedView.scrollTo, ScrollWindow.scrollTo]
      split_ifs with hpast
      · exact ⟨rfl, rfl, by rintro demand ⟨⟩⟩
      · exact PagedView.polls_moveTo (by simp)
  | recenter index => exact PagedView.polls_moveTo (by simp [ScrollWindow.recenter])

/-- A demand is turned into one fetch for each of its ranges. -/
theorem effort_issue (timeline : Timeline α) (run : RunId) (demand : PageDemand) :
    effortOf (timeline.issue run demand).2.queue ≤ demand.ranges.length := by
  rw [issue]
  split_ifs
  · exact Nat.zero_le _
  · rw [Command.queue_combine]
    induction demand.ranges with
    | nil => exact Nat.le_refl 0
    | cons range rest ih =>
        simp only [List.map_cons, List.flatMap_cons, effortOf_append, List.length_cons]
        simp only [Command.queue, effortOf_cons, effortOf_nil, PendingFetch.effort, Request.effort]
        omega

/-- A movement asks for one page range at most. -/
theorem effort_scroll (timeline : Timeline α) (run : RunId) (step : ScrollStep) :
    (timeline.scroll run step).1.focus = timeline.focus ∧
      (timeline.scroll run step).1.numItems = timeline.numItems ∧
      effortOf (Command.queueOf (timeline.scroll run step).2) ≤ 1 := by
  have hpolls := polls_moveView timeline.view step
  rw [scroll]
  rcases hmoved : moveView timeline.view step with ⟨view, error | demand⟩ <;>
    rw [hmoved] at hpolls
  · exact ⟨hpolls.focus_eq, hpolls.numItems_eq, Nat.zero_le 1⟩
  · have hview := view_issue { timeline with view } run demand
    refine ⟨?_, ?_, Nat.le_trans (effort_issue _ run demand) (hpolls.one_range rfl)⟩
    · exact (congrArg (fun view => view.window.focus) hview).trans hpolls.focus_eq
    · exact (congrArg PagedView.numItems hview).trans hpolls.numItems_eq

/-- A total asks for one page range at most.  When it is taken in, no more of it is to be
known. -/
theorem effort_onTotal (timeline : Timeline α) (run : RunId) (total now : Nat) :
    (timeline.onTotal run total now).1.focus = timeline.focus ∧
      (timeline.onTotal run total now).1.needs total ≤ timeline.needs total ∧
      effortOf (Command.queueOf ((timeline.onTotal run total now).2.map Prod.fst)) ≤ 1 := by
  by_cases hshrunk : total < timeline.numItems
  · obtain ⟨error, htotal⟩ := onTotal_of_lt hshrunk run now
    rw [htotal]
    exact ⟨rfl, Nat.le_refl _, Nat.zero_le 1⟩
  · have hset : timeline.view.setNumItems total =
        PagedView.resolveWindow { timeline.view with
          sequence := { timeline.view.sequence with numItems := total } } := by
      have hkept : ¬ total < timeline.view.sequence.numItems := hshrunk
      rw [PagedView.setNumItems, PagedSequence.setNumItems, if_neg hkept]
    have hpolls := PagedView.polls_resolveWindow { timeline.view with
      sequence := { timeline.view.sequence with numItems := total } }
    -- once the total is known, nothing is needed of it any more
    have hneeds : ∀ after : Timeline α, after.numItems = total →
        after.needs total ≤ timeline.needs total := by
      intro after hafter
      rw [needs_of_known hafter]
      exact Nat.zero_le _
    rw [onTotal, hset]
    rcases hresolve : PagedView.resolveWindow { timeline.view with
      sequence := { timeline.view.sequence with numItems := total } } with
      ⟨view, error | demand⟩ <;> rw [hresolve] at hpolls
    · exact ⟨hpolls.focus_eq, hneeds _ hpolls.numItems_eq, Nat.zero_le 1⟩
    · dsimp only
      have hview := view_issue { timeline with view, totalLoad := timeline.totalLoad.finish now }
        run demand
      refine ⟨?_, hneeds _ ?_, Nat.le_trans (effort_issue _ run demand) (hpolls.one_range rfl)⟩
      · exact (congrArg (fun view => view.window.focus) hview).trans hpolls.focus_eq
      · exact (congrArg PagedView.numItems hview).trans hpolls.numItems_eq

theorem focus_merged (timeline : Timeline α) (batch : Batch α) (now : Nat) :
    (timeline.merged batch now).focus = timeline.focus := by
  rw [merged_eq]
  rfl

theorem numItems_merged_of_accepts {timeline : Timeline α} {batch : Batch α}
    (haccepts : timeline.view.sequence.Accepts batch) (now : Nat) :
    (timeline.merged batch now).numItems = batch.total := by
  rw [numItems, view_merged_of_accepts haccepts]
  exact PagedSequence.numItems_stored ..

/-- A page asks for one page range at most, and only when it makes a total known that was
not. -/
theorem effort_onPage (timeline : Timeline α) (run : RunId) (batch : Batch α) (now : Nat) :
    (timeline.onPage run batch now).1.focus = timeline.focus ∧
      effortOf (Command.queueOf ((timeline.onPage run batch now).2.map Prod.fst)) +
        (timeline.onPage run batch now).1.needs batch.total ≤ timeline.needs batch.total := by
  have hfocus := timeline.focus_merged batch now
  by_cases haccepts : timeline.view.sequence.Accepts batch
  · have hknown := numItems_merged_of_accepts haccepts now
    by_cases hlt : timeline.numItems < batch.total
    · -- the total grew, which was the need, and one range is asked for instead
      have hpolls := (timeline.merged batch now).view.polls_resolveWindow
      rw [onPage_of_grown haccepts hlt, show timeline.needs batch.total = 1 from if_pos hlt]
      rcases hresolve : (timeline.merged batch now).view.resolveWindow with
        ⟨view, error | demand⟩ <;> rw [hresolve] at hpolls
      · refine ⟨hpolls.focus_eq.trans hfocus, ?_⟩
        have hafter : ({ timeline.merged batch now with view } : Timeline α).numItems =
            batch.total := hpolls.numItems_eq.trans hknown
        rw [needs_of_known hafter]
        exact Nat.zero_le 1
      · have hasked := effort_issue { timeline.merged batch now with view } run demand
        have hview := view_issue { timeline.merged batch now with view } run demand
        have hafter : ((timeline.merged batch now).asking run view demand).1.numItems =
            batch.total :=
          ((timeline.merged batch now).numItems_asking run view demand).trans
            (hpolls.numItems_eq.trans hknown)
        refine ⟨(congrArg (fun view => view.window.focus) hview).trans
          (hpolls.focus_eq.trans hfocus), ?_⟩
        rw [needs_of_known hafter]
        exact Nat.le_trans hasked (hpolls.one_range rfl)
    · rw [onPage_of_accepts_le haccepts (Nat.le_of_not_lt hlt)]
      refine ⟨hfocus, ?_⟩
      rw [needs_of_known hknown]
      exact Nat.zero_le _
  · obtain ⟨error, hmerged⟩ := onPage_of_not_accepts haccepts run now
    obtain ⟨_, hmerge⟩ := PagedSequence.merge_of_not_accepts haccepts
    rw [hmerged]
    refine ⟨hfocus, ?_⟩
    -- a refused batch tells no total
    have hsame : (timeline.merged batch now).numItems = timeline.numItems := by
      rw [merged_eq, numItems, PagedView.merge, hmerge]
      rfl
    rw [needs, needs, hsame]
    exact Nat.le_of_eq (Nat.zero_add _)

end Timeline

end TraceViewer
