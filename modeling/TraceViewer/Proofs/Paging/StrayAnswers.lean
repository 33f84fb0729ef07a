import TraceViewer.Proofs.Paging.Exchange

/-!
# Stray answers

An exchange may be answered for ranges that it never asked for, because the view before it
asked for them: the view was thrown away, and a fresh one has taken its place.  Such an
answer is a *stray*.  It brings what the source has, but it can take the mark of an order
that is still unanswered, and from then on the page of that mark may be asked for again.

A stray is harmless outside of its own range: `Exchange.Orderly` says that the pages that
no stray names are marked as their orders are, and that none of them is asked for while an
earlier order for it is unanswered.  A stray narrows the pages of which this is said
(`Orderly.stray`), and every act of the exchange itself keeps them (`Orderly.asks`,
`Orderly.answer`).
-/

namespace TraceViewer.Exchange

variable {α : Type} {exchange : Exchange α} {strays : List Interval}

/-- Whether no stray names a page. -/
def Spares (exchange : Exchange α) (strays : List Interval) (page : Nat) : Prop :=
  ∀ stray ∈ strays, page * exchange.view.sequence.pageSize ∉ stray

/-- No order has a page of an earlier one that is unanswered, whatever has become of the
later one since. -/
def LaterApart (exchange : Exchange α) (page : Nat) : Prop :=
  ∀ ⦃first second : Nat⦄ ⦃one two : Order⦄, exchange.orders[first]? = some one →
    exchange.orders[second]? = some two → first < second → one.state = .unanswered →
      page * exchange.view.sequence.pageSize ∈ one.range →
        page * exchange.view.sequence.pageSize ∉ two.range

/-- What holds throughout an exchange that strays reach. -/
structure Orderly (exchange : Exchange α) (strays : List Interval) : Prop where
  whole : exchange.Whole
  tracks : ∀ page, exchange.Spares strays page → exchange.Tracks page
  later_apart : ∀ page, exchange.Spares strays page → exchange.LaterApart page

theorem orderly_start (geometry : Geometry) (valid : geometry.Valid) (source : List α) :
    (start geometry valid source).Orderly [] where
  whole := whole_start geometry valid source
  tracks := fun page _ => tracks_start geometry valid source page
  later_apart := by
    intro page _ first second one two hfirst
    simp [start] at hfirst

/-! ## Acts of the exchange -/

/-- What is asked for was not marked, so it is in no order that is unanswered. -/
theorem Orderly.asks (horderly : exchange.Orderly strays) {view : PagedView α}
    {demand : PageDemand} (hasks : exchange.view.Asks view demand)
    (htotal : view.numItems ≤ exchange.source.length) :
    (exchange.enter (view, .ok demand)).Orderly strays := by
  -- asking changes no page size, so the strays spare the same pages
  have hspares : ∀ {page}, (exchange.enter (view, .ok demand)).Spares strays page →
      exchange.Spares strays page := by
    intro page hspares stray hstray
    have hspared := hspares stray hstray
    rwa [← hasks.pageSize_eq]
  refine ⟨whole_asks horderly.whole hasks htotal, fun page hspared => ?_, fun page hspared => ?_⟩
  · exact tracks_asks horderly.whole (horderly.tracks page (hspares hspared)) hasks
  · have htracks := horderly.tracks page (hspares hspared)
    intro first second one two hfirst hsecond hlt hone hpage hpage'
    change page * view.sequence.pageSize ∈ _ at hpage hpage'
    rw [hasks.pageSize_eq] at hpage hpage'
    rcases getElem?_entered hsecond with hold' | ⟨_, htwo, _⟩
    · -- the later order was there before, so the earlier one was as well
      have hbound := (List.getElem?_eq_some_iff.mp hold').1
      rcases getElem?_entered hfirst with hold | ⟨hlen, _⟩
      · exact horderly.later_apart page (hspares hspared) hold hold' hlt hone hpage hpage'
      · omega
    · -- both orders are new, and those lie apart
      have hsame := apart_asks htracks hasks hfirst hsecond hone htwo hpage hpage'
      omega

section Answers

variable {held : PagedSequence α} {range : Interval} {place : Nat} {order : Order}

theorem Spares.of_answered (hfills : Fills exchange.view.sequence held range) {page : Nat}
    {orders : List Order}
    (hspares : { exchange with view := exchange.answered held range, orders }.Spares strays page) :
    exchange.Spares strays page := by
  intro stray hstray
  have hspared := hspares stray hstray
  rwa [← hfills.pageSize_eq]

/-- Answering an order changes no range of an order, and makes none unanswered. -/
theorem laterApart_answer (hplace : exchange.orders[place]? = some order)
    (hfills : Fills exchange.view.sequence held order.range) {state : OrderState}
    (hstate : state ≠ .unanswered) {page : Nat} (hlater : exchange.LaterApart page) :
    { exchange with
      view := exchange.answered held order.range
      orders := exchange.orders.set place { order with state } }.LaterApart page := by
  intro first second one two hfirst hsecond hlt hone
  change page * held.pageSize ∈ _ → page * held.pageSize ∉ _
  rw [hfills.pageSize_eq]
  rcases getElem?_answer hfirst with ⟨_, rfl⟩ | ⟨_, hold⟩
  · exact absurd hone hstate
  · rcases getElem?_answer hsecond with ⟨rfl, rfl⟩ | ⟨_, hold'⟩
    · have hunmoved : page * exchange.view.sequence.pageSize ∈ one.range →
          page * exchange.view.sequence.pageSize ∉ order.range := hlater hold hplace hlt hone
      exact hunmoved
    · exact hlater hold hold' hlt hone

/-- Answering an order that has not failed. -/
theorem Orderly.answer (horderly : exchange.Orderly strays)
    (hplace : exchange.orders[place]? = some order) (hopen : order.state ≠ .failed)
    (hfills : Fills exchange.view.sequence held order.range) {state : OrderState}
    (hstate : state ≠ .unanswered) (htotal : held.numItems ≤ exchange.source.length)
    (hheld : state = .delivered → ∀ index ∈ order.range, index ∈ held.items) :
    { exchange with
      view := exchange.answered held order.range
      orders := exchange.orders.set place { order with state } }.Orderly strays where
  whole := whole_answer horderly.whole hfills htotal fun _ => exists_range_of_mem_set hplace
  tracks := fun page hspares => tracks_answer horderly.whole
    (horderly.tracks page (hspares.of_answered hfills)) hplace hopen hfills hstate hheld
  later_apart := fun page hspares => laterApart_answer hplace hfills hstate
    (horderly.later_apart page (hspares.of_answered hfills))

/-- Answering an order with what the source has. -/
theorem Orderly.deliver (horderly : exchange.Orderly strays)
    (hplace : exchange.orders[place]? = some order) (hopen : order.state ≠ .failed) :
    { exchange with
      view := (exchange.view.merge (exchange.batchOf order.range)).1
      orders := exchange.orders.set place { order with state := .delivered } }.Orderly
        strays := by
  have hwhole := horderly.whole
  obtain ⟨haligned, hlt, hstop⟩ := hwhole.order_range order (List.mem_of_getElem? hplace)
  -- the answer is a part of the source, so it is accepted
  have haccepts := accepts_batchOf hwhole hlt (Nat.le_trans hstop hwhole.total_le)
  obtain ⟨report, hmerge, _⟩ := PagedSequence.merge_of_accepts haccepts
  rw [PagedView.merge, hmerge]
  refine horderly.answer hplace hopen (fills_stored hwhole haligned haccepts) (by decide)
    (Nat.le_of_eq (PagedSequence.numItems_stored ..)) ?_
  intro _ index hindex
  exact (PagedSequence.mem_stored haccepts).mpr (Or.inl hindex)

theorem Orderly.fail (horderly : exchange.Orderly strays)
    (hplace : exchange.orders[place]? = some order) (hopen : order.state ≠ .failed) :
    { exchange with
      view := (exchange.view.failFetch order.range).1
      orders := exchange.orders.set place { order with state := .failed } }.Orderly strays :=
  horderly.answer hplace hopen (fills_self horderly.whole order.range) (by decide)
    horderly.whole.total_le nofun

/-! ## Strays -/

/-- An answer changes nothing about the marks of the pages that its range does not name. -/
theorem Tracks.of_spared {page : Nat} (htracks : exchange.Tracks page)
    (hwhole : exchange.Whole) (hfills : Fills exchange.view.sequence held range)
    (haligned : range.start % exchange.view.sequence.pageSize = 0)
    (hnonempty : range.start < range.stop)
    (hspared : page * exchange.view.sequence.pageSize ∉ range) :
    { exchange with view := exchange.answered held range }.Tracks page := by
  -- a range that does not start the page does not release it
  have hstays : ∀ {requestedEnd}, ¬ held.releases range page requestedEnd = true :=
    fun hreleased => hspared ((releases_iff hfills hnonempty).mp hreleased).1
  have hmarks : (held.release range).1.inFlight[page]? =
      exchange.view.sequence.inFlight[page]? := by
    rw [PagedSequence.getElem?_inFlight_release, hfills.inFlight_eq]
    cases exchange.view.sequence.inFlight[page]? with
    | none => rfl
    | some requestedEnd => simp [Option.filter, hstays]
  have hsize : (exchange.answered held range).sequence.pageSize =
      exchange.view.sequence.pageSize := hfills.pageSize_eq
  refine
    { order_marked := ?_
      mark_ordered := ?_
      apart := ?_
      delivered_held := ?_
      mark_missing := ?_ }
  · dsimp only
    rw [hsize]
    change ∀ {place order}, _ → _ → _ → ∃ requestedEnd,
      (held.release range).1.inFlight[page]? = _ ∧ _
    rw [hmarks]
    exact htracks.order_marked
  · dsimp only
    rw [hsize]
    change ∀ {requestedEnd}, (held.release range).1.inFlight[page]? = _ → _
    rw [hmarks]
    exact htracks.mark_ordered
  · dsimp only
    rw [hsize]
    exact htracks.apart
  · dsimp only
    rw [hsize]
    exact fun order horder hstate index hindex hpage => hfills.held_of_mem index
      (htracks.delivered_held order horder hstate index hindex hpage)
  · change ∀ {requestedEnd}, (held.release range).1.inFlight[page]? = _ → _
    rw [hmarks]
    exact fun hmark => mark_missing_answer hwhole htracks hfills haligned hmark hstays

/-- A stray leaves all as it was outside of its range. -/
theorem Orderly.stray (horderly : exchange.Orderly strays)
    (hfills : Fills exchange.view.sequence held range)
    (haligned : range.start % exchange.view.sequence.pageSize = 0)
    (hnonempty : range.start < range.stop) (htotal : held.numItems ≤ exchange.source.length) :
    { exchange with view := exchange.answered held range }.Orderly (range :: strays) := by
  -- from now on the page has to be spared by this stray as well
  have hspares : ∀ {page},
      { exchange with view := exchange.answered held range }.Spares (range :: strays) page →
        page * exchange.view.sequence.pageSize ∉ range ∧ exchange.Spares strays page := by
    intro page hspares
    exact List.forall_mem_cons.mp (Spares.of_answered hfills hspares)
  refine ⟨?_, fun page hspared => ?_, fun page hspared => ?_⟩
  · exact whole_answer horderly.whole hfills htotal fun entry hentry => ⟨entry, hentry, rfl⟩
  · exact (horderly.tracks page (hspares hspared).2).of_spared horderly.whole hfills haligned
      hnonempty (hspares hspared).1
  · have hlater := horderly.later_apart page (hspares hspared).2
    intro first second one two hfirst hsecond hlt hone
    change page * held.pageSize ∈ _ → page * held.pageSize ∉ _
    rw [hfills.pageSize_eq]
    exact hlater hfirst hsecond hlt hone

/-- A stray that brings what the source has. -/
theorem Orderly.strayDeliver (horderly : exchange.Orderly strays)
    (haligned : range.start % exchange.view.sequence.pageSize = 0)
    (hnonempty : range.start < range.stop) (hstop : range.stop ≤ exchange.source.length) :
    { exchange with view := (exchange.view.merge (exchange.batchOf range)).1 }.Orderly
      (range :: strays) := by
  have haccepts := accepts_batchOf horderly.whole hnonempty hstop
  obtain ⟨report, hmerge, _⟩ := PagedSequence.merge_of_accepts haccepts
  rw [PagedView.merge, hmerge]
  exact horderly.stray (fills_stored horderly.whole haligned haccepts) haligned hnonempty
    (Nat.le_of_eq (PagedSequence.numItems_stored ..))

theorem Orderly.strayFail (horderly : exchange.Orderly strays)
    (haligned : range.start % exchange.view.sequence.pageSize = 0)
    (hnonempty : range.start < range.stop) :
    { exchange with view := (exchange.view.failFetch range).1 }.Orderly (range :: strays) :=
  horderly.stray (fills_self horderly.whole range) haligned hnonempty horderly.whole.total_le

end Answers

/-! ## What else may change -/

theorem Orderly.grow (horderly : exchange.Orderly strays) {source : List α}
    (hlonger : exchange.source.length ≤ source.length) :
    { exchange with source }.Orderly strays where
  whole := horderly.whole.grow hlonger
  tracks := fun page hspares => (horderly.tracks page hspares).grow source
  later_apart := horderly.later_apart

/-- The window matters only in that it fits a page. -/
theorem Orderly.withView (horderly : exchange.Orderly strays) {view : PagedView α}
    (hfits : view.Fits) (hsequence : view.sequence = exchange.view.sequence) :
    { exchange with view }.Orderly strays := by
  obtain ⟨hwhole, htracks, hlater⟩ := horderly
  obtain ⟨⟨sequence, window⟩, source, orders⟩ := exchange
  obtain ⟨_, _⟩ := view
  subst hsequence
  refine ⟨{ hwhole with fits := hfits }, fun page hspares => ?_, hlater⟩
  obtain ⟨hmarked, hordered, hapart, hheld, hmissing⟩ := htracks page hspares
  exact ⟨hmarked, hordered, hapart, hheld, hmissing⟩

/-! ## Pages -/

/-- As long as no stray has a page, it is marked exactly when an order for it is unanswered,
and no order has it while an earlier one that has it is unanswered. -/
theorem Orderly.page_spec (horderly : exchange.Orderly strays) {page : Nat}
    (hspared : ∀ stray ∈ strays,
      ¬ Order.Covers { range := stray } exchange.view.sequence.pageSize page) :
    (exchange.view.sequence.isInFlight page = true ↔
      ∃ order ∈ exchange.orders, order.state = .unanswered ∧
        order.Covers exchange.view.sequence.pageSize page) ∧
    ∀ (first second : Nat) (one two : Order), exchange.orders[first]? = some one →
      exchange.orders[second]? = some two → first < second → one.state = .unanswered →
        one.Covers exchange.view.sequence.pageSize page →
          ¬ two.Covers exchange.view.sequence.pageSize page := by
  have hpos := exchange.view.sequence.pageSize_pos
  have hspares : exchange.Spares strays page := fun stray hstray hpage =>
    hspared stray hstray ⟨_, hpage, Page.ofIndex_mul hpos page⟩
  -- a page is covered when its first item is ordered
  have hcovers : ∀ order ∈ exchange.orders, order.Covers exchange.view.sequence.pageSize page ↔
      page * exchange.view.sequence.pageSize ∈ order.range := fun order horder =>
    covers_iff hpos (horderly.whole.order_range order horder).1
  refine ⟨(horderly.tracks page hspares).isInFlight_iff horderly.whole, ?_⟩
  intro first second one two hfirst hsecond hlt hone
  rw [hcovers one (List.mem_of_getElem? hfirst), hcovers two (List.mem_of_getElem? hsecond)]
  exact horderly.later_apart page hspares hfirst hsecond hlt hone

end TraceViewer.Exchange
