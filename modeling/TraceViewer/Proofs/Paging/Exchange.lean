import TraceViewer.Proofs.Paging.WindowRequests

/-!
# Exchanges between a view and a source

A view hands out fetch ranges, and a source answers them whenever it likes: late, more
than once, or not at all.  An exchange keeps the ledger of these ranges, its *orders*.
An order may be delivered any number of times and may fail at most once, after which
nothing arrives for it any more.  Meanwhile the source only grows.

`inFlight_iff_unanswered` says that the marks of the view are at all times exactly the
pages of the orders that have had no answer yet.  A page is therefore never handed out
while an earlier order for it is unanswered.

## Strategy

A mark has to go with the first answer to its own order, and must not go with a late
answer to an earlier order for the same page.  Both are settled by one fact about a
mark, `mark_missing`: the last item that the page was asked for is not held.

* An order that was delivered before has its items held (`delivered_held`), so it stops
  short of the mark, and the page is not complete either: it takes no mark.
* The order that the mark belongs to reaches the mark, so any answer to it takes the
  mark, complete or not (`releases_iff_unanswered`).

The missing item stays missing while the mark stays.  Batches start with a page, so one
that brings the last item of a page also names the page and reaches the mark.

All of this is said of one page at a time (`Tracks`), and `Balanced` is that it holds of
every page (`balanced_iff`).
-/

namespace TraceViewer

/-- How far the exchange over an order has come. -/
inductive OrderState where
  | unanswered
  /-- It was delivered, and may be delivered again. -/
  | delivered
  /-- It failed, and nothing arrives for it any more. -/
  | failed
deriving Repr, DecidableEq

/-- A range that a view asked for. -/
structure Order where
  range : Interval
  state : OrderState := .unanswered
deriving Repr, DecidableEq

/-- Whether an order asks for an item of a page. -/
def Order.Covers (order : Order) (pageSize page : Nat) : Prop :=
  ∃ index ∈ order.range, Page.ofIndex index pageSize = page

/-- A view, the source it is filled from, and the orders between them. -/
structure Exchange (α : Type) where
  view : PagedView α
  source : List α
  /-- Everything that was ever asked for, the oldest first. -/
  orders : List Order := []

namespace Exchange

variable {α : Type}

/-! ## Acts -/

/-- One act of an exchange. -/
inductive Act (α : Type) where
  /-- The user moves the window. -/
  | scroll (step : ScrollStep)
  /-- The view is told the total of the source. -/
  | report
  /-- The source is replaced by one that is not shorter. -/
  | grow (source : List α)
  /-- The order at a place is answered with the items of its range. -/
  | deliver (place : Nat)
  /-- The order at a place fails. -/
  | fail (place : Nat)

/-- A view of which nothing is known, and a source. -/
def start (geometry : Geometry) (valid : geometry.Valid) (source : List α) : Exchange α :=
  { view := .fresh geometry valid, source }

/-- What the view makes of an act in which it may ask for something. -/
def request (exchange : Exchange α) : Act α → PagedView α × Except ViewError PageDemand
  | .scroll step => Timeline.moveView exchange.view step
  | .report => exchange.view.setNumItems exchange.source.length
  | .grow _ | .deliver _ | .fail _ => (exchange.view, .ok {})

/-- Enter what the view asks for. -/
def enter (exchange : Exchange α) : PagedView α × Except ViewError PageDemand → Exchange α
  | (view, .error _) => { exchange with view }
  | (view, .ok demand) =>
    { exchange with view, orders := exchange.orders ++ demand.ranges.map ({ range := · }) }

/-- The items of a range, with the total of the source. -/
def batchOf (exchange : Exchange α) (range : Interval) : Batch α where
  range := range
  items := (exchange.source.drop range.start).take range.length
  total := exchange.source.length

/-- Answer the order at a place, unless it has failed. -/
def answer (exchange : Exchange α) (place : Nat) (state : OrderState)
    (change : Interval → PagedView α) : Exchange α :=
  match exchange.orders[place]? with
  | none => exchange
  | some order =>
    if order.state = .failed then exchange
    else
      { exchange with
        view := change order.range
        orders := exchange.orders.set place { order with state } }

/-- Carry out an act. -/
def perform (exchange : Exchange α) : Act α → Exchange α
  | .scroll step => exchange.enter (exchange.request (.scroll step))
  | .report => exchange.enter (exchange.request .report)
  | .grow source =>
    if exchange.source.length ≤ source.length then { exchange with source } else exchange
  | .deliver place =>
    exchange.answer place .delivered fun range =>
      (exchange.view.merge (exchange.batchOf range)).1
  | .fail place => exchange.answer place .failed fun range => (exchange.view.failFetch range).1

/-- Carry out acts, one after the other. -/
def performAll (exchange : Exchange α) (acts : List (Act α)) : Exchange α :=
  acts.foldl perform exchange

/-! ## The invariant -/

/-- What holds throughout an exchange. -/
structure Balanced (exchange : Exchange α) : Prop where
  accounted : exchange.view.sequence.Accounted
  fits : exchange.view.Fits
  pagePrefix : exchange.view.sequence.PagePrefix
  /-- The view has seen no more than the source has. -/
  total_le : exchange.view.numItems ≤ exchange.source.length
  /-- Orders are ranges of whole pages. -/
  order_range : ∀ order ∈ exchange.orders,
    order.range.start % exchange.view.sequence.pageSize = 0 ∧
      order.range.start < order.range.stop ∧ order.range.stop ≤ exchange.view.numItems
  /-- The pages of an unanswered order are marked, and the order reaches the marks. -/
  order_marked : ∀ {place : Nat} {order : Order}, exchange.orders[place]? = some order →
    order.state = .unanswered → ∀ page, page * exchange.view.sequence.pageSize ∈ order.range →
      ∃ requestedEnd, exchange.view.sequence.inFlight[page]? = some requestedEnd ∧
        requestedEnd ≤ order.range.stop
  /-- Every mark belongs to an unanswered order. -/
  mark_ordered : ∀ {page requestedEnd : Nat},
    exchange.view.sequence.inFlight[page]? = some requestedEnd →
      ∃ (place : Nat) (order : Order), exchange.orders[place]? = some order ∧
        order.state = .unanswered ∧ page * exchange.view.sequence.pageSize ∈ order.range
  /-- Different unanswered orders have no page in common. -/
  apart : ∀ {first second : Nat} {one two : Order}, exchange.orders[first]? = some one →
    exchange.orders[second]? = some two → one.state = .unanswered → two.state = .unanswered →
      ∀ page, page * exchange.view.sequence.pageSize ∈ one.range →
        page * exchange.view.sequence.pageSize ∈ two.range → first = second
  /-- The items of a delivered order are held. -/
  delivered_held : ∀ order ∈ exchange.orders, order.state = .delivered →
    ∀ index ∈ order.range, index ∈ exchange.view.sequence.items
  /-- The last item that a marked page was asked for is not held. -/
  mark_missing : ∀ {page requestedEnd : Nat},
    exchange.view.sequence.inFlight[page]? = some requestedEnd →
      requestedEnd - 1 ∉ exchange.view.sequence.items

/-- What an exchange is apart from its marks: the sequence is in order, and the orders are
ranges of whole pages. -/
structure Whole (exchange : Exchange α) : Prop where
  accounted : exchange.view.sequence.Accounted
  fits : exchange.view.Fits
  pagePrefix : exchange.view.sequence.PagePrefix
  total_le : exchange.view.numItems ≤ exchange.source.length
  order_range : ∀ order ∈ exchange.orders,
    order.range.start % exchange.view.sequence.pageSize = 0 ∧
      order.range.start < order.range.stop ∧ order.range.stop ≤ exchange.view.numItems

/-- The part of the invariant that is about the mark of one page. -/
structure Tracks (exchange : Exchange α) (page : Nat) : Prop where
  order_marked : ∀ {place : Nat} {order : Order}, exchange.orders[place]? = some order →
    order.state = .unanswered → page * exchange.view.sequence.pageSize ∈ order.range →
      ∃ requestedEnd, exchange.view.sequence.inFlight[page]? = some requestedEnd ∧
        requestedEnd ≤ order.range.stop
  mark_ordered : ∀ {requestedEnd : Nat},
    exchange.view.sequence.inFlight[page]? = some requestedEnd →
      ∃ (place : Nat) (order : Order), exchange.orders[place]? = some order ∧
        order.state = .unanswered ∧ page * exchange.view.sequence.pageSize ∈ order.range
  apart : ∀ {first second : Nat} {one two : Order}, exchange.orders[first]? = some one →
    exchange.orders[second]? = some two → one.state = .unanswered → two.state = .unanswered →
      page * exchange.view.sequence.pageSize ∈ one.range →
        page * exchange.view.sequence.pageSize ∈ two.range → first = second
  delivered_held : ∀ order ∈ exchange.orders, order.state = .delivered →
    ∀ index ∈ order.range, Page.ofIndex index exchange.view.sequence.pageSize = page →
      index ∈ exchange.view.sequence.items
  mark_missing : ∀ {requestedEnd : Nat},
    exchange.view.sequence.inFlight[page]? = some requestedEnd →
      requestedEnd - 1 ∉ exchange.view.sequence.items

theorem balanced_iff {exchange : Exchange α} :
    exchange.Balanced ↔ exchange.Whole ∧ ∀ page, exchange.Tracks page := by
  constructor
  · intro hbalanced
    refine ⟨⟨hbalanced.accounted, hbalanced.fits, hbalanced.pagePrefix, hbalanced.total_le,
      hbalanced.order_range⟩, fun page => ?_⟩
    exact
      { order_marked := fun hplace hstate => hbalanced.order_marked hplace hstate page
        mark_ordered := hbalanced.mark_ordered
        apart := fun hfirst hsecond hone htwo =>
          hbalanced.apart hfirst hsecond hone htwo page
        delivered_held := fun order horder hstate index hindex _ =>
          hbalanced.delivered_held order horder hstate index hindex
        mark_missing := hbalanced.mark_missing }
  · rintro ⟨hwhole, htracks⟩
    exact
      { accounted := hwhole.accounted
        fits := hwhole.fits
        pagePrefix := hwhole.pagePrefix
        total_le := hwhole.total_le
        order_range := hwhole.order_range
        order_marked := fun hplace hstate page => (htracks page).order_marked hplace hstate
        mark_ordered := (htracks _).mark_ordered
        apart := fun hfirst hsecond hone htwo page =>
          (htracks page).apart hfirst hsecond hone htwo
        delivered_held := fun order horder hstate index hindex =>
          (htracks _).delivered_held order horder hstate index hindex rfl
        mark_missing := (htracks _).mark_missing }

theorem whole_start (geometry : Geometry) (valid : geometry.Valid) (source : List α) :
    (start geometry valid source).Whole where
  accounted := PagedSequence.accounted_ofPageSize geometry.pageSize valid.1
  fits := valid.2
  pagePrefix := PagedSequence.pagePrefix_ofPageSize geometry.pageSize valid.1
  total_le := Nat.zero_le _
  order_range := by simp [start]

theorem tracks_start (geometry : Geometry) (valid : geometry.Valid) (source : List α)
    (page : Nat) : (start geometry valid source).Tracks page where
  order_marked := by simp [start]
  mark_ordered := by simp [start, PagedView.fresh, PagedSequence.ofPageSize]
  apart := by simp [start]
  delivered_held := by simp [start]
  mark_missing := by simp [start, PagedView.fresh, PagedSequence.ofPageSize]

theorem balanced_start (geometry : Geometry) (valid : geometry.Valid) (source : List α) :
    (start geometry valid source).Balanced :=
  balanced_iff.mpr ⟨whole_start geometry valid source, tracks_start geometry valid source⟩

/-! ## Asking -/

/-- An incomplete page misses its last existing item: the items held are the first. -/
theorem last_missing {sequence : PagedSequence α} (hacc : sequence.Accounted)
    (hfirsts : sequence.PagePrefix) {page : Nat}
    (hplace : page * sequence.pageSize < sequence.numItems)
    (hincomplete : sequence.isPageComplete page = false) :
    (Page.span page sequence.pageSize sequence.numItems).stop - 1 ∉ sequence.items := by
  intro hlast
  refine Bool.eq_false_iff.mp hincomplete (hacc.isPageComplete_iff.mpr ⟨hplace, ?_⟩)
  intro index hindex
  have hpos := sequence.pageSize_pos
  have hpage := ((Page.mem_span hpos).mp hindex).1
  rw [Interval.mem_def] at hindex
  refine hfirsts (by omega) ?_ hlast
  rw [hpage, eq_comm, Page.ofIndex_eq_iff hpos, Page.stop_span hplace]
  omega

section Asking

variable {exchange : Exchange α} (hwhole : exchange.Whole) {page : Nat}
  (htracks : exchange.Tracks page) {view : PagedView α} {demand : PageDemand}
  (hasks : exchange.view.Asks view demand)

/-- The orders after a demand is entered. -/
def entered (exchange : Exchange α) (demand : PageDemand) : List Order :=
  exchange.orders ++ demand.ranges.map ({ range := · })

/-- An order was there before, or it is for a range of the demand. -/
theorem getElem?_entered {place : Nat} {order : Order}
    (hplace : (exchange.entered demand)[place]? = some order) :
    exchange.orders[place]? = some order ∨
      exchange.orders.length ≤ place ∧ order.state = .unanswered ∧
        demand.ranges[place - exchange.orders.length]? = some order.range := by
  rw [entered, List.getElem?_append] at hplace
  split_ifs at hplace with hlt
  · exact Or.inl hplace
  · rw [List.getElem?_map, Option.map_eq_some_iff] at hplace
    obtain ⟨range, hrange, rfl⟩ := hplace
    exact Or.inr ⟨Nat.le_of_not_lt hlt, rfl, hrange⟩

include hasks in
/-- A page that starts in a range of the demand is a page of the demand. -/
theorem mem_pages_of_mem_range {range : Interval} (hrange : range ∈ demand.ranges)
    (hpage : page * exchange.view.sequence.pageSize ∈ range) : page ∈ demand.pages := by
  have hasked := ((hasks.mem_ranges _).mp ⟨range, hrange, hpage⟩).1
  rwa [Page.ofIndex_mul exchange.view.sequence.pageSize_pos] at hasked

include htracks hasks in
/-- A page of a demand was not marked, so no unanswered order has it. -/
theorem not_mem_order_of_asks {place : Nat} {order : Order}
    (hplace : exchange.orders[place]? = some order) (hstate : order.state = .unanswered)
    (hpage : page ∈ demand.pages) : page * exchange.view.sequence.pageSize ∉ order.range := by
  intro hmem
  obtain ⟨requestedEnd, hmark, _⟩ := htracks.order_marked hplace hstate hmem
  have hidle := hasks.lacks.not_inFlight page hpage
  exact Bool.eq_false_iff.mp hidle (PagedSequence.isInFlight_iff.mpr ⟨requestedEnd, hmark⟩)

include htracks hasks in
theorem order_marked_asks {place : Nat} {order : Order}
    (hplace : (exchange.entered demand)[place]? = some order)
    (hstate : order.state = .unanswered)
    (hpage : page * exchange.view.sequence.pageSize ∈ order.range) :
    ∃ requestedEnd, view.sequence.inFlight[page]? = some requestedEnd ∧
      requestedEnd ≤ order.range.stop := by
  rw [hasks.getElem?_inFlight]
  rcases getElem?_entered hplace with hold | ⟨_, _, hrange⟩
  · -- an old order: its pages are not asked for again
    rw [if_neg fun hmem => not_mem_order_of_asks htracks hasks hold hstate hmem hpage]
    exact htracks.order_marked hold hstate hpage
  · -- a new order: its range ends with a page or with the sequence
    have hnew := List.mem_of_getElem? hrange
    exact ⟨_, if_pos (mem_pages_of_mem_range hasks hnew hpage),
      (hasks.fetchRange order.range hnew).stop_span_le hpage⟩

include htracks hasks in
theorem mark_ordered_asks {requestedEnd : Nat}
    (hmark : view.sequence.inFlight[page]? = some requestedEnd) :
    ∃ (place : Nat) (order : Order), (exchange.entered demand)[place]? = some order ∧
      order.state = .unanswered ∧ page * exchange.view.sequence.pageSize ∈ order.range := by
  rw [hasks.getElem?_inFlight] at hmark
  split_ifs at hmark with hmem
  · -- a new mark: the page starts in one of the ranges, which is entered behind the others
    obtain ⟨range, hrange, hpage⟩ := (hasks.mem_ranges _).mpr
      ⟨by rwa [Page.ofIndex_mul exchange.view.sequence.pageSize_pos],
        hasks.lacks.lt_numItems page hmem⟩
    obtain ⟨place, hplace⟩ := List.mem_iff_getElem?.mp hrange
    refine ⟨exchange.orders.length + place, { range }, ?_, rfl, hpage⟩
    rw [entered, List.getElem?_append_right (Nat.le_add_right _ _), Nat.add_sub_cancel_left,
      List.getElem?_map, hplace]
    rfl
  · obtain ⟨place, order, hplace, hstate, hpage⟩ := htracks.mark_ordered hmark
    refine ⟨place, order, ?_, hstate, hpage⟩
    exact (List.getElem?_append_left (List.getElem?_eq_some_iff.mp hplace).1).trans hplace

include htracks hasks in
theorem apart_asks {first second : Nat} {one two : Order}
    (hfirst : (exchange.entered demand)[first]? = some one)
    (hsecond : (exchange.entered demand)[second]? = some two)
    (hone : one.state = .unanswered) (htwo : two.state = .unanswered)
    (hpage : page * exchange.view.sequence.pageSize ∈ one.range)
    (hpage' : page * exchange.view.sequence.pageSize ∈ two.range) : first = second := by
  -- two old orders, an old one and a new one either way, or two new ones
  rcases getElem?_entered hfirst with hold | ⟨hlen, _, hrange⟩ <;>
    rcases getElem?_entered hsecond with hold' | ⟨hlen', _, hrange'⟩
  · exact htracks.apart hold hold' hone htwo hpage hpage'
  · have hnew := mem_pages_of_mem_range hasks (List.mem_of_getElem? hrange') hpage'
    exact absurd hpage (not_mem_order_of_asks htracks hasks hold hone hnew)
  · have hnew := mem_pages_of_mem_range hasks (List.mem_of_getElem? hrange) hpage
    exact absurd hpage' (not_mem_order_of_asks htracks hasks hold' htwo hnew)
  · have hsame := hasks.ranges_apart hrange hrange' hpage hpage'
    omega

include hwhole htracks hasks in
theorem mark_missing_asks {requestedEnd : Nat}
    (hmark : view.sequence.inFlight[page]? = some requestedEnd) :
    requestedEnd - 1 ∉ exchange.view.sequence.items := by
  rw [hasks.getElem?_inFlight] at hmark
  split_ifs at hmark with hmem
  · -- a page is asked for because it is incomplete, up to its last existing item
    have hgrown := PagedSequence.accounted_withNumItems hwhole.accounted hasks.numItems_le
    cases hmark
    exact last_missing hgrown hwhole.pagePrefix (hasks.lacks.lt_numItems page hmem)
      (hasks.lacks.not_complete page hmem)
  · exact htracks.mark_missing hmark

include hwhole hasks in
theorem whole_asks (htotal : view.numItems ≤ exchange.source.length) :
    (exchange.enter (view, .ok demand)).Whole where
  accounted := hasks.accounted hwhole.accounted
  fits := hasks.fits hwhole.fits
  pagePrefix := hasks.pagePrefix hwhole.pagePrefix
  total_le := htotal
  order_range := by
    intro order horder
    change _ % view.sequence.pageSize = 0 ∧ _ ∧ _ ≤ view.numItems
    rw [hasks.pageSize_eq]
    rcases List.mem_append.mp horder with horder | horder
    · obtain ⟨haligned, hlt, hstop⟩ := hwhole.order_range order horder
      exact ⟨haligned, hlt, Nat.le_trans hstop hasks.numItems_le⟩
    · obtain ⟨range, hrange, rfl⟩ := List.mem_map.mp horder
      have hfetch := hasks.fetchRange range hrange
      exact ⟨hfetch.aligned, hfetch.nonempty, hfetch.stop_le⟩

include hwhole htracks hasks in
/-- A page that is asked for was not marked before, so the new orders are apart from the
unanswered ones and from each other. -/
theorem tracks_asks : (exchange.enter (view, .ok demand)).Tracks page where
  order_marked := by
    intro place order hplace hstate hpage
    change page * view.sequence.pageSize ∈ _ at hpage
    rw [hasks.pageSize_eq] at hpage
    exact order_marked_asks htracks hasks hplace hstate hpage
  mark_ordered := by
    intro requestedEnd hmark
    change ∃ place order, _ ∧ _ ∧ page * view.sequence.pageSize ∈ _
    rw [hasks.pageSize_eq]
    exact mark_ordered_asks htracks hasks hmark
  apart := by
    intro first second one two hfirst hsecond hone htwo hpage hpage'
    change page * view.sequence.pageSize ∈ _ at hpage hpage'
    rw [hasks.pageSize_eq] at hpage hpage'
    exact apart_asks htracks hasks hfirst hsecond hone htwo hpage hpage'
  delivered_held := by
    intro order horder hstate index hindex hpage
    change Page.ofIndex index view.sequence.pageSize = page at hpage
    change index ∈ view.sequence.items
    rw [hasks.pageSize_eq] at hpage
    rw [hasks.items_eq]
    rcases List.mem_append.mp horder with horder | horder
    · exact htracks.delivered_held order horder hstate index hindex hpage
    · obtain ⟨range, _, rfl⟩ := List.mem_map.mp horder
      cases hstate
  mark_missing := by
    intro requestedEnd hmark
    change _ ∉ view.sequence.items
    rw [hasks.items_eq]
    exact mark_missing_asks hwhole htracks hasks hmark

include hasks in
theorem balanced_asks (hbalanced : exchange.Balanced)
    (htotal : view.numItems ≤ exchange.source.length) :
    (exchange.enter (view, .ok demand)).Balanced := by
  obtain ⟨hwhole, htracks⟩ := balanced_iff.mp hbalanced
  exact balanced_iff.mpr
    ⟨whole_asks hwhole hasks htotal, fun page => tracks_asks hwhole (htracks page) hasks⟩

end Asking

/-- What an act asks for is refused, or it is asked for properly. -/
theorem request_spec {exchange : Exchange α} (hbalanced : exchange.Balanced) (act : Act α) :
    (∃ error, exchange.request act = (exchange.view, .error error)) ∨
      ∃ view demand, exchange.request act = (view, .ok demand) ∧
        exchange.view.Asks view demand ∧ view.numItems ≤ exchange.source.length := by
  have hnothing : exchange.view.Asks exchange.view {} ∧
      exchange.view.numItems ≤ exchange.source.length :=
    ⟨exchange.view.asks_self, hbalanced.total_le⟩
  cases act with
  | scroll step =>
      rcases Timeline.moveView_spec hbalanced.accounted hbalanced.fits step with
        ⟨error, hmoved⟩ | hmoved | ⟨view, demand, hmoved, hresolved, htotal⟩
      · exact Or.inl ⟨error, hmoved⟩
      · exact Or.inr ⟨exchange.view, {}, hmoved, hnothing⟩
      · exact Or.inr ⟨view, demand, hmoved, hresolved.1,
          Nat.le_trans (Nat.le_of_eq htotal) hbalanced.total_le⟩
  | report =>
      obtain ⟨view, demand, hset, hresolved, htotal, _⟩ :=
        PagedView.setNumItems_spec hbalanced.accounted hbalanced.fits hbalanced.total_le
      exact Or.inr ⟨view, demand, hset, hresolved.1, Nat.le_of_eq htotal⟩
  | grow source => exact Or.inr ⟨exchange.view, {}, rfl, hnothing⟩
  | deliver place => exact Or.inr ⟨exchange.view, {}, rfl, hnothing⟩
  | fail place => exact Or.inr ⟨exchange.view, {}, rfl, hnothing⟩

theorem balanced_request {exchange : Exchange α} (hbalanced : exchange.Balanced) (act : Act α) :
    (exchange.enter (exchange.request act)).Balanced := by
  rcases request_spec hbalanced act with ⟨error, hrefused⟩ | ⟨view, demand, hasked, hasks, hle⟩
  · have hself : { exchange with view := exchange.view }.Balanced := hbalanced
    rw [hrefused]
    exact hself
  · rw [hasked]
    exact balanced_asks hasks hbalanced hle

theorem Whole.grow {exchange : Exchange α} (hwhole : exchange.Whole) {source : List α}
    (hlonger : exchange.source.length ≤ source.length) : { exchange with source }.Whole :=
  { hwhole with total_le := Nat.le_trans hwhole.total_le hlonger }

/-- What is known of a page does not depend on the source. -/
theorem Tracks.grow {exchange : Exchange α} {page : Nat} (htracks : exchange.Tracks page)
    (source : List α) : { exchange with source }.Tracks page :=
  ⟨htracks.order_marked, htracks.mark_ordered, htracks.apart, htracks.delivered_held,
    htracks.mark_missing⟩

theorem balanced_grow {exchange : Exchange α} (hbalanced : exchange.Balanced) {source : List α}
    (hlonger : exchange.source.length ≤ source.length) :
    { exchange with source }.Balanced := by
  obtain ⟨hwhole, htracks⟩ := balanced_iff.mp hbalanced
  exact balanced_iff.mpr ⟨hwhole.grow hlonger, fun page => (htracks page).grow source⟩

/-! ## Answering -/

/-- What the view holds when the marks are taken that an answer to a range takes: the
items from before and, if the answer brought them, the items of the range. -/
structure Fills (before held : PagedSequence α) (range : Interval) : Prop where
  accounted : held.Accounted
  pagePrefix : held.PagePrefix
  pageSize_eq : held.pageSize = before.pageSize
  inFlight_eq : held.inFlight = before.inFlight
  numItems_le : before.numItems ≤ held.numItems
  held_of_mem : ∀ index ∈ before.items, index ∈ held.items
  mem_or : ∀ index ∈ held.items, index ∈ before.items ∨ index ∈ range

section Answer

variable {exchange : Exchange α} (hwhole : exchange.Whole) {page : Nat}
  (htracks : exchange.Tracks page) {held : PagedSequence α} {range : Interval}

/-- The view after an answer to a range. -/
def answered (exchange : Exchange α) (held : PagedSequence α) (range : Interval) : PagedView α :=
  { exchange.view with sequence := (held.release range).1 }

include hwhole in
/-- A range of whole pages that brings the last item a marked page was asked for names the
page and reaches the mark. -/
theorem reaches_of_last_mem (haligned : range.start % exchange.view.sequence.pageSize = 0)
    {requestedEnd : Nat} (hmark : exchange.view.sequence.inFlight[page]? = some requestedEnd)
    (hlast : requestedEnd - 1 ∈ range) :
    page * exchange.view.sequence.pageSize ∈ range ∧ requestedEnd ≤ range.stop := by
  have hlt := hwhole.accounted.lt_mark hmark
  have hle := hwhole.accounted.mark_le hmark
  have hpage : Page.ofIndex (requestedEnd - 1) exchange.view.sequence.pageSize = page :=
    (Page.ofIndex_eq_iff exchange.view.sequence.pageSize_pos).mpr (by omega)
  rw [Interval.mem_def] at hlast ⊢
  have := Page.start_le_of_aligned haligned hlast.1 hpage
  omega

/-- An answer takes the marks that it names and reaches, and those of the pages that are
complete with it. -/
theorem releases_iff (hfills : Fills exchange.view.sequence held range)
    (hnonempty : range.start < range.stop) {requestedEnd : Nat} :
    held.releases range page requestedEnd = true ↔
      page * exchange.view.sequence.pageSize ∈ range ∧
        (requestedEnd ≤ range.stop ∨ held.isPageComplete page = true) := by
  have hnamed : page ∈ Page.startingIn range exchange.view.sequence.pageSize ↔
      page * exchange.view.sequence.pageSize ∈ range := by
    rw [Page.mem_startingIn exchange.view.sequence.pageSize_pos]
    exact or_iff_left (by omega)
  rw [PagedSequence.releases, Bool.and_eq_true, Bool.or_eq_true, decide_eq_true_eq,
    decide_eq_true_eq, hfills.pageSize_eq, hnamed]

include hwhole htracks in
/-- The last item that a mark was asked for is missing after an answer that leaves it. -/
theorem mark_missing_answer (hfills : Fills exchange.view.sequence held range)
    (haligned : range.start % exchange.view.sequence.pageSize = 0) {requestedEnd : Nat}
    (hmark : exchange.view.sequence.inFlight[page]? = some requestedEnd)
    (hstays : ¬ held.releases range page requestedEnd = true) :
    requestedEnd - 1 ∉ held.items := by
  intro hlast
  rcases hfills.mem_or _ hlast with hbefore | hlast
  · exact htracks.mark_missing hmark hbefore
  · -- the answer brought the item, so it reached the mark and would have taken it
    obtain ⟨hpage, hreach⟩ := reaches_of_last_mem hwhole haligned hmark hlast
    have hnonempty := Nat.lt_of_le_of_lt hpage.1 hpage.2
    exact hstays ((releases_iff hfills hnonempty).mpr ⟨hpage, Or.inl hreach⟩)

include hwhole in
/-- What an answer to whole pages leaves, when it changes no range of an order. -/
theorem whole_answer (hfills : Fills exchange.view.sequence held range)
    (htotal : held.numItems ≤ exchange.source.length) {orders : List Order}
    (hranges : ∀ entry ∈ orders, ∃ previous ∈ exchange.orders, previous.range = entry.range) :
    { exchange with view := exchange.answered held range, orders }.Whole where
  accounted := PagedSequence.accounted_release hfills.accounted range
  fits := by
    change exchange.view.window.displayCount ≤ held.pageSize
    rw [hfills.pageSize_eq]
    exact hwhole.fits
  pagePrefix := hfills.pagePrefix
  total_le := htotal
  order_range := by
    intro entry hentry
    change _ % held.pageSize = 0 ∧ _ ∧ _ ≤ held.numItems
    obtain ⟨previous, hprevious, hrange⟩ := hranges entry hentry
    obtain ⟨haligned, hlt, hstop⟩ := hwhole.order_range previous hprevious
    rw [hfills.pageSize_eq, ← hrange]
    exact ⟨haligned, hlt, Nat.le_trans hstop hfills.numItems_le⟩

variable {place : Nat} {order : Order} (hplace : exchange.orders[place]? = some order)
  (hopen : order.state ≠ .failed) (hfills : Fills exchange.view.sequence held order.range)

include hwhole htracks hplace hopen hfills in
/-- An answer takes a mark exactly when it is the first answer to the order of the mark. -/
theorem releases_iff_unanswered {requestedEnd : Nat}
    (hmark : exchange.view.sequence.inFlight[page]? = some requestedEnd) :
    held.releases order.range page requestedEnd = true ↔
      order.state = .unanswered ∧ page * exchange.view.sequence.pageSize ∈ order.range := by
  have horder := List.mem_of_getElem? hplace
  have hlt := hwhole.accounted.lt_mark hmark
  have hle := hwhole.accounted.mark_le hmark
  rw [releases_iff hfills (hwhole.order_range order horder).2.1]
  constructor
  · rintro ⟨hpage, hreason⟩
    refine ⟨?_, hpage⟩
    by_contra hanswered
    -- a delivered order has its items held, so the last item of the mark is not among them
    have hdelivered : order.state = .delivered := by
      cases hstate : order.state <;> simp_all
    have hsame : Page.ofIndex (requestedEnd - 1) exchange.view.sequence.pageSize = page :=
      (Page.ofIndex_eq_iff exchange.view.sequence.pageSize_pos).mpr (by omega)
    have hmissing := htracks.mark_missing hmark
    have hnone : requestedEnd - 1 ∉ order.range := fun hlast =>
      hmissing (htracks.delivered_held order horder hdelivered _ hlast hsame)
    rw [Interval.mem_def] at hpage
    rcases hreason with hreach | hcomplete
    · -- the range reaches the mark, so the missing item is one of its own
      exact hnone (Interval.mem_def.mpr (by omega))
    · -- the page is complete, so the order or an earlier one brought the missing item
      have hspan := (hfills.accounted.isPageComplete_iff.mp hcomplete).2 (requestedEnd - 1) (by
        have hgrown := hfills.numItems_le
        rw [Page.mem_span held.pageSize_pos, hfills.pageSize_eq]
        omega)
      rcases hfills.mem_or _ hspan with hheld | hrange
      · exact hmissing hheld
      · exact hnone hrange
  · rintro ⟨hstate, hpage⟩
    obtain ⟨_, hmarked, hreach⟩ := htracks.order_marked hplace hstate hpage
    rw [hmark, Option.some.injEq] at hmarked
    exact ⟨hpage, Or.inl (by omega)⟩

include hwhole htracks hplace hopen hfills in
/-- The marks that an answer leaves are those of other orders. -/
theorem getElem?_inFlight_answer {requestedEnd : Nat} :
    (held.release order.range).1.inFlight[page]? = some requestedEnd ↔
      exchange.view.sequence.inFlight[page]? = some requestedEnd ∧
        ¬ (order.state = .unanswered ∧
          page * exchange.view.sequence.pageSize ∈ order.range) := by
  rw [PagedSequence.getElem?_inFlight_release, Option.filter_eq_some_iff, hfills.inFlight_eq,
    Bool.not_eq_true']
  refine and_congr_right fun hmark => ?_
  rw [← releases_iff_unanswered hwhole htracks hplace hopen hfills hmark, Bool.not_eq_true]

/-- An order is the one that was answered, or it is as before. -/
theorem getElem?_answer {state : OrderState} {other : Nat} {entry : Order}
    (hentry : (exchange.orders.set place { order with state })[other]? = some entry) :
    other = place ∧ entry = { order with state } ∨
      other ≠ place ∧ exchange.orders[other]? = some entry := by
  rw [List.getElem?_set] at hentry
  split_ifs at hentry with hsame hlt
  · exact Or.inl ⟨hsame.symm, (Option.some.inj hentry).symm⟩
  · exact Or.inr ⟨Ne.symm hsame, hentry⟩

include hplace in
/-- Answering changes the state of an order and no range. -/
theorem exists_range_of_mem_set {state : OrderState} {entry : Order}
    (hentry : entry ∈ exchange.orders.set place { order with state }) :
    ∃ previous ∈ exchange.orders, previous.range = entry.range := by
  obtain ⟨other, hentry⟩ := List.mem_iff_getElem?.mp hentry
  rcases getElem?_answer hentry with ⟨_, rfl⟩ | ⟨_, hentry⟩
  · exact ⟨order, List.mem_of_getElem? hplace, rfl⟩
  · exact ⟨entry, List.mem_of_getElem? hentry, rfl⟩

include hwhole htracks hplace hopen hfills in
/-- Answering an order keeps what is known of a page. -/
theorem tracks_answer {state : OrderState} (hstate : state ≠ .unanswered)
    (hheld : state = .delivered → ∀ index ∈ order.range, index ∈ held.items) :
    { exchange with
      view := exchange.answered held order.range
      orders := exchange.orders.set place { order with state } }.Tracks page where
  order_marked := by
    intro other entry hentry hunanswered hpage
    change page * held.pageSize ∈ _ at hpage
    rw [hfills.pageSize_eq] at hpage
    rcases getElem?_answer hentry with ⟨_, rfl⟩ | ⟨hne, hentry⟩
    · exact absurd hunanswered hstate
    · -- the mark of another open order survives, for the two orders share no page
      obtain ⟨requestedEnd, hmark, hreach⟩ := htracks.order_marked hentry hunanswered hpage
      refine ⟨requestedEnd, (getElem?_inFlight_answer hwhole htracks hplace hopen hfills).mpr
        ⟨hmark, ?_⟩, hreach⟩
      rintro ⟨hsame, hshared⟩
      exact hne (htracks.apart hentry hplace hunanswered hsame hpage hshared)
  mark_ordered := by
    intro requestedEnd hmark
    change ∃ other entry, _ ∧ _ ∧ page * held.pageSize ∈ _
    rw [hfills.pageSize_eq]
    obtain ⟨hmarked, hstays⟩ :=
      (getElem?_inFlight_answer hwhole htracks hplace hopen hfills).mp hmark
    obtain ⟨other, entry, hentry, hunanswered, hpage⟩ := htracks.mark_ordered hmarked
    refine ⟨other, entry, ?_, hunanswered, hpage⟩
    -- the marks of the order that was answered are gone
    have hne : place ≠ other := by
      rintro rfl
      rw [hplace, Option.some.injEq] at hentry
      subst hentry
      exact hstays ⟨hunanswered, hpage⟩
    exact (List.getElem?_set_ne hne).trans hentry
  apart := by
    intro first second one two hfirst hsecond hone htwo hpage hpage'
    change page * held.pageSize ∈ _ at hpage hpage'
    rw [hfills.pageSize_eq] at hpage hpage'
    rcases getElem?_answer hfirst with ⟨_, rfl⟩ | ⟨_, hfirst⟩
    · exact absurd hone hstate
    · rcases getElem?_answer hsecond with ⟨_, rfl⟩ | ⟨_, hsecond⟩
      · exact absurd htwo hstate
      · exact htracks.apart hfirst hsecond hone htwo hpage hpage'
  delivered_held := by
    intro entry hentry hdelivered index hindex hpage
    change Page.ofIndex index held.pageSize = page at hpage
    rw [hfills.pageSize_eq] at hpage
    obtain ⟨other, hentry⟩ := List.mem_iff_getElem?.mp hentry
    rcases getElem?_answer hentry with ⟨_, rfl⟩ | ⟨_, hentry⟩
    · exact hheld hdelivered index hindex
    · exact hfills.held_of_mem index (htracks.delivered_held entry
        (List.mem_of_getElem? hentry) hdelivered index hindex hpage)
  mark_missing := by
    intro requestedEnd hmark
    change (held.release order.range).1.inFlight[page]? = some requestedEnd at hmark
    have haligned := (hwhole.order_range order (List.mem_of_getElem? hplace)).1
    rw [PagedSequence.getElem?_inFlight_release, Option.filter_eq_some_iff, hfills.inFlight_eq,
      Bool.not_eq_true', ← Bool.not_eq_true] at hmark
    exact mark_missing_answer hwhole htracks hfills haligned hmark.1 hmark.2

include hplace hopen hfills in
/-- Answering an order keeps the invariant. -/
theorem balanced_answer (hbalanced : exchange.Balanced) {state : OrderState}
    (hstate : state ≠ .unanswered) (htotal : held.numItems ≤ exchange.source.length)
    (hheld : state = .delivered → ∀ index ∈ order.range, index ∈ held.items) :
    { exchange with
      view := exchange.answered held order.range
      orders := exchange.orders.set place { order with state } }.Balanced := by
  obtain ⟨hwhole, htracks⟩ := balanced_iff.mp hbalanced
  exact balanced_iff.mpr
    ⟨whole_answer hwhole hfills htotal fun _ => exists_range_of_mem_set hplace,
      fun page => tracks_answer hwhole (htracks page) hplace hopen hfills hstate hheld⟩

end Answer

/-- A source that has at least what the view has seen answers a range with a batch that is
merged. -/
theorem accepts_batchOf {exchange : Exchange α} (hwhole : exchange.Whole) {range : Interval}
    (hlt : range.start < range.stop) (hstop : range.stop ≤ exchange.source.length) :
    exchange.view.sequence.Accepts (exchange.batchOf range) := by
  refine ⟨hwhole.total_le, Nat.le_of_lt hlt, ?_, hstop⟩
  simp only [batchOf, List.length_take, List.length_drop, Interval.length]
  omega

/-- The answer to a range holds the items of the range besides those from before. -/
theorem fills_stored {exchange : Exchange α} (hwhole : exchange.Whole) {range : Interval}
    (haligned : range.start % exchange.view.sequence.pageSize = 0)
    (haccepts : exchange.view.sequence.Accepts (exchange.batchOf range)) :
    Fills exchange.view.sequence (exchange.view.sequence.stored (exchange.batchOf range))
      range where
  accounted := PagedSequence.accounted_stored hwhole.accounted haccepts
  pagePrefix := PagedSequence.pagePrefix_stored hwhole.pagePrefix haccepts haligned
  pageSize_eq := PagedSequence.pageSize_stored ..
  inFlight_eq := PagedSequence.inFlight_stored ..
  numItems_le := by
    rw [PagedSequence.numItems_stored]
    exact haccepts.1
  held_of_mem := fun index hindex => (PagedSequence.mem_stored haccepts).mpr (Or.inr hindex)
  mem_or := fun index hindex => ((PagedSequence.mem_stored haccepts).mp hindex).symm

/-- A failure brings nothing. -/
theorem fills_self {exchange : Exchange α} (hwhole : exchange.Whole) (range : Interval) :
    Fills exchange.view.sequence exchange.view.sequence range where
  accounted := hwhole.accounted
  pagePrefix := hwhole.pagePrefix
  pageSize_eq := rfl
  inFlight_eq := rfl
  numItems_le := Nat.le_refl _
  held_of_mem := fun _ hindex => hindex
  mem_or := fun _ hindex => Or.inl hindex

/-- Every act keeps the invariant. -/
theorem balanced_perform {exchange : Exchange α} (hbalanced : exchange.Balanced) (act : Act α) :
    (exchange.perform act).Balanced := by
  cases act with
  | scroll step => exact balanced_request hbalanced (.scroll step)
  | report => exact balanced_request hbalanced .report
  | grow source =>
      rw [perform]
      split_ifs with hlonger
      · exact balanced_grow hbalanced hlonger
      · exact hbalanced
  | deliver place =>
      rw [perform, answer]
      cases hplace : exchange.orders[place]? with
      | none => exact hbalanced
      | some order =>
          dsimp only
          split_ifs with hfailed
          · exact hbalanced
          · -- the source has all of the range, so the batch is merged
            have hwhole := (balanced_iff.mp hbalanced).1
            obtain ⟨haligned, hlt, hstop⟩ :=
              hwhole.order_range order (List.mem_of_getElem? hplace)
            have haccepts :=
              accepts_batchOf hwhole hlt (Nat.le_trans hstop hwhole.total_le)
            obtain ⟨report, hmerge, _⟩ := PagedSequence.merge_of_accepts haccepts
            rw [PagedView.merge, hmerge]
            refine balanced_answer hplace hfailed (fills_stored hwhole haligned haccepts)
              hbalanced (by decide) (Nat.le_of_eq (PagedSequence.numItems_stored ..)) ?_
            intro _ index hindex
            exact (PagedSequence.mem_stored haccepts).mpr (Or.inl hindex)
  | fail place =>
      rw [perform, answer]
      cases hplace : exchange.orders[place]? with
      | none => exact hbalanced
      | some order =>
          dsimp only
          split_ifs with hfailed
          · exact hbalanced
          · refine balanced_answer hplace hfailed
              (fills_self (balanced_iff.mp hbalanced).1 order.range) hbalanced (by decide)
              hbalanced.total_le ?_
            rintro ⟨⟩

theorem balanced_performAll {exchange : Exchange α} (hbalanced : exchange.Balanced)
    (acts : List (Act α)) : (exchange.performAll acts).Balanced := by
  induction acts generalizing exchange with
  | nil => exact hbalanced
  | cons act rest ih => exact ih (balanced_perform hbalanced act)

/-! ## Requests and marks -/

/-- A range of whole pages names every page of which it has an item. -/
theorem covers_iff {pageSize : Nat} (hpos : 0 < pageSize) {order : Order}
    (haligned : order.range.start % pageSize = 0) {page : Nat} :
    order.Covers pageSize page ↔ page * pageSize ∈ order.range := by
  constructor
  · rintro ⟨index, hindex, hpage⟩
    rw [Interval.mem_def] at hindex ⊢
    have hstart := Page.start_le_of_aligned haligned hindex.1 hpage
    have hle := Page.start_le index pageSize
    rw [hpage] at hle
    omega
  · intro hpage
    exact ⟨page * pageSize, hpage, Page.ofIndex_mul hpos page⟩

/-- A page is marked exactly when an order for it is unanswered. -/
theorem Tracks.isInFlight_iff {exchange : Exchange α} {page : Nat}
    (htracks : exchange.Tracks page) (hwhole : exchange.Whole) :
    exchange.view.sequence.isInFlight page = true ↔
      ∃ order ∈ exchange.orders, order.state = .unanswered ∧
        order.Covers exchange.view.sequence.pageSize page := by
  have hpos := exchange.view.sequence.pageSize_pos
  rw [PagedSequence.isInFlight_iff]
  constructor
  · rintro ⟨requestedEnd, hmark⟩
    obtain ⟨place, order, hplace, hstate, hpage⟩ := htracks.mark_ordered hmark
    have horder := List.mem_of_getElem? hplace
    exact ⟨order, horder, hstate,
      (covers_iff hpos (hwhole.order_range order horder).1).mpr hpage⟩
  · rintro ⟨order, horder, hstate, hcovers⟩
    obtain ⟨place, hplace⟩ := List.mem_iff_getElem?.mp horder
    obtain ⟨requestedEnd, hmark, _⟩ := htracks.order_marked hplace hstate
      ((covers_iff hpos (hwhole.order_range order horder).1).mp hcovers)
    exact ⟨requestedEnd, hmark⟩

theorem Balanced.isInFlight_iff {exchange : Exchange α} (hbalanced : exchange.Balanced)
    (page : Nat) :
    exchange.view.sequence.isInFlight page = true ↔
      ∃ order ∈ exchange.orders, order.state = .unanswered ∧
        order.Covers exchange.view.sequence.pageSize page := by
  obtain ⟨hwhole, htracks⟩ := balanced_iff.mp hbalanced
  exact (htracks page).isInFlight_iff hwhole

/-- Whatever an act asks for, it asks for pages that are not marked. -/
theorem Balanced.asks_idle {exchange : Exchange α} (hbalanced : exchange.Balanced)
    {act : Act α} {view : PagedView α} {demand : PageDemand}
    (hrequest : exchange.request act = (view, .ok demand)) {range : Interval}
    (hrange : range ∈ demand.ranges) {page : Nat}
    (hcovers : Order.Covers { range } exchange.view.sequence.pageSize page) :
    exchange.view.sequence.isInFlight page = false := by
  rcases request_spec hbalanced act with ⟨error, hrefused⟩ | ⟨after, asked, hasked, hasks, _⟩
  · rw [hrefused] at hrequest
    cases hrequest
  · rw [hasked] at hrequest
    cases hrequest
    obtain ⟨index, hindex, rfl⟩ := hcovers
    exact hasks.lacks.not_inFlight _ ((hasks.mem_ranges index).mp ⟨range, hrange, hindex⟩).1

/-- The pages that are marked are the pages of the orders without an answer, and nothing
is asked for of a page while such an order for it is open. -/
theorem inFlight_iff_unanswered (geometry : Geometry) (valid : geometry.Valid)
    (source : List α) (acts : List (Act α)) :
    let exchange := (start geometry valid source).performAll acts
    (∀ page, exchange.view.sequence.isInFlight page = true ↔
      ∃ order ∈ exchange.orders, order.state = .unanswered ∧
        order.Covers exchange.view.sequence.pageSize page) ∧
    ∀ (act : Act α) (view : PagedView α) (demand : PageDemand),
      exchange.request act = (view, .ok demand) →
        ∀ range ∈ demand.ranges, ∀ page,
          Order.Covers { range } exchange.view.sequence.pageSize page →
            ¬ ∃ order ∈ exchange.orders, order.state = .unanswered ∧
              order.Covers exchange.view.sequence.pageSize page := by
  intro exchange
  have hbalanced : exchange.Balanced :=
    balanced_performAll (balanced_start geometry valid source) acts
  refine ⟨hbalanced.isInFlight_iff, ?_⟩
  intro act view demand hrequest range hrange page hcovers
  rw [← hbalanced.isInFlight_iff, hbalanced.asks_idle hrequest hrange hcovers]
  decide

/-- A late answer to an order that the page has outgrown leaves the mark of the later
order. -/
theorem inFlight_after_late_duplicate :
    let exchange := (start ⟨2, 2⟩ (by decide) [10]).performAll
      [.report, .deliver 0, .grow [10, 20], .report, .deliver 0]
    exchange.orders = [{ range := ⟨0, 1⟩, state := .delivered }, { range := ⟨0, 2⟩ }] ∧
      exchange.view.sequence.isInFlight 0 = true := by
  have horders : ((start ⟨2, 2⟩ (by decide) [10]).performAll
      [.report, .deliver 0, .grow [10, 20], .report, .deliver 0]).orders =
        [{ range := ⟨0, 1⟩, state := .delivered }, { range := ⟨0, 2⟩ }] := by
    decide +kernel
  refine ⟨horders, ?_⟩
  refine ((inFlight_iff_unanswered ⟨2, 2⟩ (by decide) [10]
    [.report, .deliver 0, .grow [10, 20], .report, .deliver 0]).1 0).mpr ?_
  rw [horders]
  exact ⟨{ range := ⟨0, 2⟩ }, by simp, rfl, 0, by decide, rfl⟩

end Exchange

end TraceViewer
