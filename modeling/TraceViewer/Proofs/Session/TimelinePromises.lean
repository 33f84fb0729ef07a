import TraceViewer.Proofs.Paging.Promises
import TraceViewer.Proofs.Session.Marks
import TraceViewer.Proofs.Simulation.ArchiveReplies

/-!
# The promises of a timeline

A timeline is *fed* by a queue when the page fetches of the queue bring nothing but
promised items (`Timeline.Fed`).  Its window is *covered* when every empty slot of it
lies in a page that is being fetched (`Timeline.Covered`).

Each operation does one of two things (`Timeline.Attends`): it asks for the window, which
then is covered, or it is *steady* and leaves the window and all promises as they are.
A page that brings no larger total is steady.  What the window lacks then it goes on
lacking, until something else asks for it.
-/

namespace TraceViewer

namespace Timeline

variable {α : Type} {timeline before middle after : Timeline α} {limit : Nat} {run : RunId}
  {pending queue : List PendingFetch}

/-- The pages that a queue holds for a timeline are whole pages of promised items. -/
structure Fed (run : RunId) (pending : List PendingFetch) (timeline : Timeline α) : Prop where
  pagePrefix : timeline.view.sequence.PagePrefix
  range : ∀ ⦃range : Interval⦄, .data run (.page timeline.kind range) ∈ pending →
    range.start % timeline.view.sequence.pageSize = 0 ∧ range.start < range.stop ∧
      range.stop ≤ timeline.numItems
  promised : ∀ ⦃range : Interval⦄, .data run (.page timeline.kind range) ∈ pending →
    ∀ index ∈ range, timeline.view.sequence.Promises index

/-- Every empty slot of the window lies in a page that is being fetched. -/
def Covered (timeline : Timeline α) : Prop :=
  timeline.view.sequence.Covers timeline.view.visibleRange

/-- The window and the promises are as before. -/
structure Steady (before after : Timeline α) : Prop where
  visibleRange_eq : after.view.visibleRange = before.view.visibleRange
  promises_iff : ∀ index,
    after.view.sequence.Promises index ↔ before.view.sequence.Promises index

/-- What an operation does to the window: it asks for it, or it leaves it and the promises
as they are. -/
structure Attends (run : RunId) (pending : List PendingFetch) (before after : Timeline α)
    (queue : List PendingFetch) : Prop where
  kind_eq : after.kind = before.kind
  fed : after.Fed run (pending ++ queue)
  covered_or : after.Covered ∨ before.Steady after

theorem fed_fresh (kind : SequenceKind) (geometry : Geometry) (valid : geometry.Valid)
    (hnone : ∀ range, .data run (.page kind range) ∉ pending) :
    (fresh kind geometry valid : Timeline α).Fed run pending where
  pagePrefix := PagedSequence.pagePrefix_ofPageSize geometry.pageSize valid.1
  range := fun range hmem => absurd hmem (hnone range)
  promised := fun range hmem => absurd hmem (hnone range)

/-- A window over an empty sequence shows no slot. -/
theorem covered_of_numItems_eq_zero (hempty : timeline.numItems = 0) : timeline.Covered := by
  intro index hindex
  rw [PagedView.mem_visibleRange] at hindex
  have hzero : timeline.view.numItems = 0 := hempty
  omega

theorem steady_self (timeline : Timeline α) : timeline.Steady timeline :=
  ⟨rfl, fun _ => Iff.rfl⟩

theorem Steady.trans (hfirst : before.Steady middle) (hsecond : middle.Steady after) :
    before.Steady after :=
  ⟨hsecond.visibleRange_eq.trans hfirst.visibleRange_eq,
    fun index => (hsecond.promises_iff index).trans (hfirst.promises_iff index)⟩

theorem Still.steady (hstill : before.Still after) : before.Steady after :=
  ⟨hstill.visibleRange_eq, fun _ => by rw [hstill.sequence_eq]⟩

theorem Still.covered (hstill : before.Still after) (hcovered : before.Covered) :
    after.Covered := by
  unfold Covered
  rw [hstill.sequence_eq, hstill.visibleRange_eq]
  exact hcovered

theorem Fed.of_subset {more : List PendingFetch} (hfed : timeline.Fed run more)
    (hsub : pending ⊆ more) : timeline.Fed run pending where
  pagePrefix := hfed.pagePrefix
  range := fun _ hmem => hfed.range (hsub hmem)
  promised := fun _ hmem => hfed.promised (hsub hmem)

/-- Fetches that are for no page of the timeline may be queued. -/
theorem Fed.append (hfed : timeline.Fed run pending)
    (hqueue : ∀ range, .data run (.page timeline.kind range) ∉ queue) :
    timeline.Fed run (pending ++ queue) := by
  have hold : ∀ {range : Interval}, .data run (.page timeline.kind range) ∈ pending ++ queue →
      .data run (.page timeline.kind range) ∈ pending :=
    fun hmem => (List.mem_append.mp hmem).resolve_right (hqueue _)
  exact
    { pagePrefix := hfed.pagePrefix
      range := fun _ hmem => hfed.range (hold hmem)
      promised := fun _ hmem => hfed.promised (hold hmem) }

theorem Still.fed (hstill : before.Still after) (hfed : before.Fed run pending) :
    after.Fed run pending where
  pagePrefix := by
    rw [hstill.sequence_eq]
    exact hfed.pagePrefix
  range := by
    unfold numItems PagedView.numItems
    rw [hstill.kind_eq, hstill.sequence_eq]
    exact hfed.range
  promised := by
    rw [hstill.kind_eq, hstill.sequence_eq]
    exact hfed.promised

/-- Changing the focus or how far loading has come. -/
theorem Still.attends (hstill : before.Still after) (hfed : before.Fed run pending)
    (hqueue : ∀ range, .data run (.page before.kind range) ∉ queue) :
    Attends run pending before after queue where
  kind_eq := hstill.kind_eq
  fed := by
    refine (hstill.fed hfed).append ?_
    rw [hstill.kind_eq]
    exact hqueue
  covered_or := Or.inr hstill.steady

/-- One operation after another, when at least one of them is still. -/
theorem Still.trans_attends (hstill : before.Still middle)
    (hattends : middle.Attends run pending after queue) :
    Attends run pending before after queue where
  kind_eq := hattends.kind_eq.trans hstill.kind_eq
  fed := hattends.fed
  covered_or := hattends.covered_or.imp_right hstill.steady.trans

theorem Attends.trans_still {more : List PendingFetch}
    (hattends : Attends run pending before middle queue) (hstill : middle.Still after)
    (hqueue : ∀ range, .data run (.page middle.kind range) ∉ more) :
    Attends run pending before after (queue ++ more) where
  kind_eq := hstill.kind_eq.trans hattends.kind_eq
  fed := by
    rw [← List.append_assoc]
    exact (hstill.attends hattends.fed hqueue).fed
  covered_or := hattends.covered_or.imp hstill.covered (·.trans hstill.steady)

/-! ## Asking -/

/-- Whether the fetches of a queue are all for pages of one sequence. -/
def OnlyPages (kind : SequenceKind) (queue : List PendingFetch) : Prop :=
  ∀ fetch ∈ queue, ∃ (run : RunId) (range : Interval), fetch = .data run (.page kind range)

theorem onlyPages_nil (kind : SequenceKind) : OnlyPages kind [] := by
  rintro fetch ⟨⟩

theorem OnlyPages.not_mem {kind other : SequenceKind} (honly : OnlyPages kind queue)
    (hne : other ≠ kind) (range : Interval) : .data run (.page other range) ∉ queue := by
  intro hmem
  obtain ⟨asked, pages, heq⟩ := honly _ hmem
  cases heq
  exact hne rfl

theorem onlyPages_asking {view : PagedView α} {demand : PageDemand}
    (hasks : timeline.view.Asks view demand) (run : RunId) :
    OnlyPages timeline.kind (timeline.asking run view demand).2.queue := by
  intro fetch hmem
  obtain ⟨range, _, rfl⟩ := (mem_queue_asking hasks run fetch).mp hmem
  exact ⟨run, range, rfl⟩

/-- Asking for the window covers it, and promises what it asks for. -/
theorem attends_asking (hfed : timeline.Fed run pending) {view : PagedView α}
    {demand : PageDemand} (hresolved : timeline.view.Resolved view demand) :
    (timeline.asking run view demand).1.Fed run
        (pending ++ (timeline.asking run view demand).2.queue) ∧
      (timeline.asking run view demand).1.Covered := by
  obtain ⟨hasks, hcovers⟩ := hresolved
  have hview : (timeline.asking run view demand).1.view = view := by
    rw [asking_fst]
  refine ⟨⟨?_, ?_, ?_⟩, ?_⟩
  · rw [hview]
    exact hasks.pagePrefix hfed.pagePrefix
  · intro range hmem
    rw [numItems_asking, hview, hasks.pageSize_eq]
    rw [kind_asking] at hmem
    -- what was pending keeps its bounds, and what is asked for has those of its demand
    rcases List.mem_append.mp hmem with hold | hnew
    · obtain ⟨haligned, hlt, hstop⟩ := hfed.range hold
      exact ⟨haligned, hlt, Nat.le_trans hstop hasks.numItems_le⟩
    · obtain ⟨asked, hasked, heq⟩ := (mem_queue_asking hasks run _).mp hnew
      cases heq
      have hfetch := hasks.fetchRange range hasked
      exact ⟨hfetch.aligned, hfetch.nonempty, hfetch.stop_le⟩
  · intro range hmem index hindex
    rw [hview]
    rw [kind_asking] at hmem
    rcases List.mem_append.mp hmem with hold | hnew
    · exact hasks.promises (hfed.promised hold index hindex)
    · obtain ⟨asked, hasked, heq⟩ := (mem_queue_asking hasks run _).mp hnew
      cases heq
      exact hasks.promises_range hasked hindex
  · unfold Covered
    rw [hview]
    exact hcovers hfed.pagePrefix

theorem attends_scroll (hsound : timeline.Sound limit) (hfed : timeline.Fed run pending)
    (step : ScrollStep) :
    Attends run pending timeline (timeline.scroll run step).1
        (Command.queueOf (timeline.scroll run step).2) ∧
      OnlyPages timeline.kind (Command.queueOf (timeline.scroll run step).2) := by
  have hkind := timeline.kind_scroll run step
  rcases scroll_spec hsound run step with ⟨error, hscroll⟩ | hscroll |
    ⟨view, demand, hresolved, _, hscroll⟩
  · rw [hscroll]
    exact ⟨⟨rfl, by simpa using hfed, Or.inr timeline.steady_self⟩, onlyPages_nil _⟩
  · rw [hscroll]
    exact ⟨⟨rfl, by simpa using hfed, Or.inr timeline.steady_self⟩, onlyPages_nil _⟩
  · rw [hscroll] at hkind ⊢
    obtain ⟨hasked, hcovered⟩ := attends_asking hfed hresolved
    exact ⟨⟨hkind, hasked, Or.inl hcovered⟩, onlyPages_asking hresolved.1 run⟩

/-- A total that is not refused asks for the window. -/
theorem attends_onTotal (hsound : timeline.Sound limit) (hfed : timeline.Fed run pending)
    (total now : Nat) :
    Attends run pending timeline (timeline.onTotal run total now).1
        (Command.queueOf ((timeline.onTotal run total now).2.map Prod.fst)) ∧
      OnlyPages timeline.kind
        (Command.queueOf ((timeline.onTotal run total now).2.map Prod.fst)) := by
  have hkind := timeline.kind_onTotal run total now
  by_cases hlt : total < timeline.numItems
  · obtain ⟨error, htotal⟩ := onTotal_of_lt hlt run now
    rw [htotal]
    -- a refused total changes nothing but its load state
    have hstill : timeline.Still { timeline with totalLoad := timeline.totalLoad.fail } :=
      ⟨rfl, rfl, rfl⟩
    exact ⟨hstill.attends hfed (by simp [Except.map]), onlyPages_nil _⟩
  · obtain ⟨view, demand, hresolved, _, _, htotal⟩ :=
      onTotal_of_le hsound (Nat.le_of_not_lt hlt) run now
    rw [htotal] at hkind ⊢
    let finished := { timeline with totalLoad := timeline.totalLoad.finish now }
    have hfinished : timeline.Still finished := ⟨rfl, rfl, rfl⟩
    have hasks : finished.view.Asks view demand := hresolved.1
    obtain ⟨hasked, hcovered⟩ := attends_asking (hfinished.fed hfed) hresolved
    exact ⟨⟨hkind, hasked, Or.inl hcovered⟩, onlyPages_asking hasks run⟩

/-! ## Pages -/

theorem view_merged_of_accepts {batch : Batch α}
    (haccepts : timeline.view.sequence.Accepts batch) (now : Nat) :
    (timeline.merged batch now).view =
      { timeline.view with
        sequence := ((timeline.view.sequence.stored batch).release batch.range).1 } := by
  obtain ⟨report, hmerge, _⟩ := PagedSequence.merge_of_accepts haccepts
  rw [merged_eq, PagedView.merge, hmerge]

section Merged

variable {batch : Batch α} (hsound : timeline.Sound limit) (hfed : timeline.Fed run pending)
  (haccepts : timeline.view.sequence.Accepts batch)
  (hasked : .data run (.page timeline.kind batch.range) ∈ pending)

include hsound hfed haccepts hasked in
/-- A page that was asked for changes no promise. -/
theorem promises_merged (now index : Nat) :
    (timeline.merged batch now).view.sequence.Promises index ↔
      timeline.view.sequence.Promises index := by
  rw [view_merged_of_accepts haccepts]
  exact PagedSequence.promises_release_stored hsound.accounted haccepts (hfed.promised hasked)

include hsound hfed haccepts hasked in
theorem fed_merged (now : Nat) : (timeline.merged batch now).Fed run pending := by
  have hkind : (timeline.merged batch now).kind = timeline.kind := by
    rw [merged_eq]
  have hview := view_merged_of_accepts haccepts now
  refine ⟨?_, ?_, ?_⟩
  · rw [hview]
    -- the range was asked for, so it starts with a page
    exact PagedSequence.pagePrefix_stored hfed.pagePrefix haccepts (hfed.range hasked).1
  · intro range hmem
    rw [hkind] at hmem
    obtain ⟨haligned, hlt, hstop⟩ := hfed.range hmem
    rw [numItems, hview]
    change _ % (timeline.view.sequence.stored batch).pageSize = 0 ∧ _ ∧
      _ ≤ (timeline.view.sequence.stored batch).numItems
    rw [PagedSequence.pageSize_stored, PagedSequence.numItems_stored]
    exact ⟨haligned, hlt, Nat.le_trans hstop haccepts.1⟩
  · intro range hmem index hindex
    rw [hkind] at hmem
    rw [promises_merged hsound hfed haccepts hasked]
    exact hfed.promised hmem index hindex

include hsound hfed haccepts hasked in
/-- A page that was asked for asks for the window when it brings a larger total.
Otherwise it is steady, whatever the window lacks. -/
theorem attends_onPage (hlimit : batch.total ≤ limit) (now : Nat) :
    Attends run pending timeline (timeline.onPage run batch now).1
        (Command.queueOf ((timeline.onPage run batch now).2.map Prod.fst)) ∧
      OnlyPages timeline.kind
        (Command.queueOf ((timeline.onPage run batch now).2.map Prod.fst)) := by
  have hkind := kind_onPage hsound hlimit run now
  have hmerged := fed_merged hsound hfed haccepts hasked now
  by_cases hlt : timeline.numItems < batch.total
  · obtain ⟨view, demand, hresolved, _, _, hpage⟩ :=
      onPage_of_accepts_lt hsound haccepts hlt hlimit run now
    rw [hpage] at hkind ⊢
    obtain ⟨hfed', hcovered⟩ := attends_asking hmerged hresolved
    have honly := onlyPages_asking hresolved.1 run
    rw [show (timeline.merged batch now).kind = timeline.kind by rw [merged_eq]] at honly
    exact ⟨⟨hkind, hfed', Or.inl hcovered⟩, honly⟩
  · -- the total is the one known already, so the window is the same
    have hle := Nat.le_of_not_lt hlt
    have hsame : batch.total = timeline.view.sequence.numItems := Nat.le_antisymm hle haccepts.1
    rw [onPage_of_accepts_le haccepts hle] at hkind ⊢
    refine ⟨⟨hkind, by simpa [Except.map] using hmerged, Or.inr ⟨?_, ?_⟩⟩, onlyPages_nil _⟩
    · rw [view_merged_of_accepts haccepts]
      change timeline.view.window.visibleRange (timeline.view.sequence.stored batch).numItems = _
      rw [PagedSequence.numItems_stored, hsame]
      rfl
    · exact promises_merged hsound hfed haccepts hasked now

end Merged

/-- A recording that has all that a timeline has seen answers in full a request for a part
of it. -/
theorem accepts_pageOf {β : Type} (view : β → α) {all : List β} {range : Interval}
    (hlt : range.start < range.stop) (hstop : range.stop ≤ all.length)
    (hle : timeline.numItems ≤ all.length) :
    (Archive.pageOf view all range).range = range ∧
      timeline.view.sequence.Accepts (Archive.pageOf view all range) := by
  have hrange : (Archive.pageOf view all range).range = range := by
    simp only [Archive.pageOf]
    rw [Nat.min_eq_left hstop, Nat.min_eq_left (Nat.le_of_lt hlt)]
  refine ⟨hrange, hle, ?_, ?_, ?_⟩
  · rw [hrange]
    exact Nat.le_of_lt hlt
  · rw [hrange]
    simp only [Archive.pageOf, List.length_map, List.length_take, List.length_drop,
      Interval.length]
    omega
  · rw [hrange]
    exact hstop

/-- A page that was asked for is answered in full. -/
theorem accepts_pageOf_asked {β : Type} (hfed : timeline.Fed run pending) {range : Interval}
    (hasked : .data run (.page timeline.kind range) ∈ pending) (view : β → α) {all : List β}
    (hle : timeline.numItems ≤ all.length) :
    (Archive.pageOf view all range).range = range ∧
      timeline.view.sequence.Accepts (Archive.pageOf view all range) := by
  obtain ⟨_, hlt, hstop⟩ := hfed.range hasked
  exact accepts_pageOf view hlt (Nat.le_trans hstop hle) hle

end Timeline

end TraceViewer
