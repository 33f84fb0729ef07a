import TraceViewer.Proofs.Paging.ExactAccounts
import TraceViewer.Proofs.Session.TimelineHistories

/-!
# The histories of the sequences

A session does nothing to its two paged sequences but what they offer: it tells them totals,
asks them for windows, and gives them batches and failures.  After any history of a session
each of its sequences is therefore one that such operations lead to (`historic_applyAll`),
and what the theory of paged sequences says of all histories holds of it.
-/

namespace TraceViewer

/-! ## Sequences -/

namespace PagedSequence

variable {α : Type} {before middle after : PagedSequence α}

/-- Whether operations lead from one sequence to another. -/
def Evolves (before after : PagedSequence α) : Prop := ∃ acts, after = before.performAll acts

theorem evolves_self (sequence : PagedSequence α) : sequence.Evolves sequence := ⟨[], rfl⟩

theorem evolves_perform (sequence : PagedSequence α) (act : Act α) :
    sequence.Evolves (sequence.perform act) := ⟨[act], rfl⟩

theorem Evolves.trans (hfirst : before.Evolves middle) (hsecond : middle.Evolves after) :
    before.Evolves after := by
  obtain ⟨acts, rfl⟩ := hfirst
  obtain ⟨more, rfl⟩ := hsecond
  exact ⟨acts ++ more, by rw [performAll, performAll, performAll, List.foldl_append]⟩

theorem Evolves.numItems_le (hevolves : before.Evolves after) :
    before.numItems ≤ after.numItems := by
  obtain ⟨acts, rfl⟩ := hevolves
  induction acts generalizing before with
  | nil => exact Nat.le_refl _
  | cons act rest ih => exact Nat.le_trans (before.numItems_le_perform act) ih

/-- Whether operations lead from a sequence of which nothing is known to this one. -/
def Historic (sequence : PagedSequence α) : Prop :=
  ∃ pageSize hpos, (ofPageSize pageSize hpos).Evolves sequence

theorem Historic.evolves (hhistoric : before.Historic) (hevolves : before.Evolves after) :
    after.Historic := by
  obtain ⟨pageSize, hpos, hstart⟩ := hhistoric
  exact ⟨pageSize, hpos, hstart.trans hevolves⟩

theorem Historic.accounted {sequence : PagedSequence α} (hhistoric : sequence.Historic) :
    sequence.Accounted := by
  obtain ⟨pageSize, hpos, acts, rfl⟩ := hhistoric
  exact accounted_performAll (accounted_ofPageSize pageSize hpos) acts

end PagedSequence

/-! ## Timelines -/

namespace PagedView

variable {α : Type}

theorem evolves_resolveWindow (view : PagedView α) :
    view.sequence.Evolves view.resolveWindow.1.sequence := by
  rw [resolveWindow]
  split_ifs with hshown
  · exact view.sequence.evolves_self
  · exact view.sequence.evolves_perform (.requestWindow view.visibleRange)

theorem evolves_moveTo (view : PagedView α) (target : Option ScrollWindow) :
    view.sequence.Evolves (view.moveTo target).1.sequence := by
  cases target with
  | none => exact view.sequence.evolves_self
  | some window => exact evolves_resolveWindow { view with window }

theorem evolves_setNumItems (view : PagedView α) (total : Nat) :
    view.sequence.Evolves (view.setNumItems total).1.sequence := by
  have htold := view.sequence.evolves_perform (.setNumItems total)
  rw [PagedSequence.perform] at htold
  rw [setNumItems]
  rcases hset : view.sequence.setNumItems total with ⟨sequence, error | grew⟩ <;>
    rw [hset] at htold
  · exact htold
  · exact htold.trans (evolves_resolveWindow { view with sequence })

end PagedView

namespace Timeline

variable {α : Type}

theorem evolves_moveView (view : PagedView α) (step : ScrollStep) :
    view.sequence.Evolves (moveView view step).1.sequence := by
  cases step with
  | left => exact view.evolves_moveTo _
  | right => exact view.evolves_moveTo _
  | recenter index => exact view.evolves_moveTo _
  | toIndex index =>
      rw [moveView, PagedView.scrollTo]
      split
      · exact view.sequence.evolves_self
      · exact view.evolves_moveTo _

theorem evolves_issue (timeline : Timeline α) (run : RunId) (demand : PageDemand) :
    timeline.view.sequence.Evolves (timeline.issue run demand).1.view.sequence := by
  rw [view_issue]
  exact timeline.view.sequence.evolves_self

theorem evolves_scroll (timeline : Timeline α) (run : RunId) (step : ScrollStep) :
    timeline.view.sequence.Evolves (timeline.scroll run step).1.view.sequence := by
  have hmoved := evolves_moveView timeline.view step
  rw [scroll]
  rcases hview : moveView timeline.view step with ⟨view, error | demand⟩ <;>
    rw [hview] at hmoved
  · exact hmoved
  · exact hmoved.trans (evolves_issue { timeline with view } run demand)

theorem evolves_onTotal (timeline : Timeline α) (run : RunId) (total now : Nat) :
    timeline.view.sequence.Evolves (timeline.onTotal run total now).1.view.sequence := by
  have htold := timeline.view.evolves_setNumItems total
  rw [onTotal]
  rcases hview : timeline.view.setNumItems total with ⟨view, error | demand⟩ <;>
    rw [hview] at htold
  · exact htold
  · exact htold.trans (evolves_issue { timeline with view, totalLoad := _ } run demand)

theorem evolves_onPage (timeline : Timeline α) (run : RunId) (batch : Batch α) (now : Nat) :
    timeline.view.sequence.Evolves (timeline.onPage run batch now).1.view.sequence := by
  have hmerged : timeline.view.sequence.Evolves (timeline.merged batch now).view.sequence := by
    rw [merged_eq]
    exact timeline.view.sequence.evolves_perform (.merge batch)
  have hresolved := (timeline.merged batch now).view.evolves_resolveWindow
  -- a merge, and a request for the window when the total grew
  rcases timeline.onPage_cases run batch now with ⟨result, hpage⟩ | ⟨view, error, hview, hpage⟩ |
    ⟨view, demand, hview, hpage⟩ <;> rw [hpage]
  · exact hmerged
  · rw [hview] at hresolved
    exact hmerged.trans hresolved
  · rw [hview] at hresolved
    exact (hmerged.trans hresolved).trans
      (evolves_issue { timeline.merged batch now with view } run demand)

theorem evolves_onPageFailed (timeline : Timeline α) (range : Interval) :
    timeline.view.sequence.Evolves (timeline.onPageFailed range).view.sequence :=
  timeline.view.sequence.evolves_perform (.failFetch range)

theorem evolves_change {before after : Timeline α} (hchange : Change before after) :
    before.view.sequence.Evolves after.view.sequence := by
  cases hchange with
  | scroll run step => exact before.evolves_scroll run step
  | onTotal run total now => exact before.evolves_onTotal run total now
  | onPage run batch now => exact before.evolves_onPage run batch now
  | onPageFailed range => exact before.evolves_onPageFailed range
  | requestTotal | setFocus | onTotalFailed => exact before.view.sequence.evolves_self

theorem Becomes.evolves {before after : Timeline α} (hbecomes : before.Becomes after) :
    before.view.sequence.Evolves after.view.sequence :=
  hbecomes.preserves
    (motive := fun timeline => before.view.sequence.Evolves timeline.view.sequence)
    (fun hchange hevolves => hevolves.trans (evolves_change hchange))
    before.view.sequence.evolves_self

end Timeline

/-! ## Scopes -/

namespace RunScope

variable {before after : RunScope}

/-- Whether operations lead from the sequences of one scope to those of another. -/
structure Evolves (before after : RunScope) : Prop where
  digests : before.executions.digests.view.sequence.Evolves
    after.executions.digests.view.sequence
  graphExecutions : before.graphExecutions.view.sequence.Evolves
    after.graphExecutions.view.sequence

theorem Becomes.evolves (hbecomes : before.Becomes after) : before.Evolves after :=
  ⟨hbecomes.digests.evolves, hbecomes.graphExecutions.evolves⟩

/-- Whether operations on paged sequences lead to both sequences of a scope. -/
structure Historic (scope : RunScope) : Prop where
  digests : scope.executions.digests.view.sequence.Historic
  graphExecutions : scope.graphExecutions.view.sequence.Historic

theorem historic_fresh (config : Config) (valid : config.Valid) : (fresh config valid).Historic :=
  ⟨⟨_, valid.1.1, PagedSequence.evolves_self _⟩, ⟨_, valid.2.1, PagedSequence.evolves_self _⟩⟩

theorem Historic.evolves (hhistoric : before.Historic) (hevolves : before.Evolves after) :
    after.Historic :=
  ⟨hhistoric.digests.evolves hevolves.digests,
    hhistoric.graphExecutions.evolves hevolves.graphExecutions⟩

end RunScope

/-! ## Sessions -/

namespace Session

/-- Whether operations on paged sequences lead to both sequences of a session. -/
def Historic (session : Session) : Prop := session.scope.Historic

/-- Whatever happens to a session, nothing but operations on paged sequences leads to its
sequences. -/
theorem historic_applyAll (config : Config) (valid : config.Valid)
    (history : List (Event × Nat)) : ((fresh config valid).applyAll history).Historic := by
  obtain ⟨initial, hinitial, hbecomes⟩ := traced_applyAll config valid history
  exact (RunScope.historic_fresh initial hinitial).evolves hbecomes.evolves

end Session

end TraceViewer
