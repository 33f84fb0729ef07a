import TraceViewer.Proofs.Paging.StrayAnswers
import TraceViewer.Proofs.Session.PageDemands

/-!
# The orders of a scope

Together with the recording of its run, each of the two sequences of a scope is one side of
an exchange, whose orders are the page fetches of the scope.  The operations of the scope
are acts of the exchange: they ask, and the replies and failures of page fetches answer an
order.  So what is known of exchanges carries over (`RunScope.Orderly`).

A reply or a failure may also be for a page that an earlier scope of the run asked for.
It is a stray then (`RunScope.orderly_onReply_stray`, `orderly_onFetchFailed_stray`).
-/

namespace TraceViewer

/-- The orders for what a queue asks for of a sequence. -/
def ordersOf (kind : SequenceKind) (queue : List PendingFetch) : List Order :=
  (rangesOf kind queue).map ({ range := · })

theorem ordersOf_append (kind : SequenceKind) (first second : List PendingFetch) :
    ordersOf kind (first ++ second) = ordersOf kind first ++ ordersOf kind second := by
  rw [ordersOf, rangesOf_append, List.map_append]
  rfl

/-! ## Timelines -/

namespace Timeline

variable {α β : Type} {timeline before after : Timeline α} {source : List α} {orders : List Order}
  {strays : List Interval}

/-- A timeline as a side of an exchange. -/
def exchange (timeline : Timeline α) (source : List α) (orders : List Order) : Exchange α :=
  { view := timeline.view, source, orders }

theorem orderly_demands (horderly : (before.exchange source orders).Orderly strays)
    {queue : List PendingFetch} (hdemands : before.Demands after queue)
    (hsound : after.Sound source.length) :
    (after.exchange source (orders ++ ordersOf before.kind queue)).Orderly strays := by
  obtain ⟨demand, hasks, hranges⟩ := hdemands.asks
  have hentered := horderly.asks hasks hsound.numItems_le
  rw [ordersOf, hranges]
  exact hentered.withView hsound.fits rfl

/-- The page that a recording replies with is what the source has. -/
theorem pageOf_eq_batchOf (view : β → α) {all : List β} {range : Interval}
    (hlt : range.start < range.stop) (hstop : range.stop ≤ all.length) :
    Archive.pageOf view all range = (timeline.exchange (all.map view) orders).batchOf range := by
  rw [Archive.pageOf, Exchange.batchOf, exchange]
  simp only [Nat.min_eq_left hstop, Nat.min_eq_left (Nat.le_of_lt hlt), List.map_take,
    List.map_drop, List.length_map, Interval.length]

section Answers

variable (view : β → α) {all : List β} {range : Interval}

/-- Once the page is stored, the window is asked for. -/
theorem orderly_onPage (hlt : range.start < range.stop) (hstop : range.stop ≤ all.length)
    (hsound : timeline.Sound all.length) (run : RunId) (now : Nat)
    (hmerged : ((timeline.merged (Archive.pageOf view all range) now).exchange (all.map view)
      orders).Orderly strays)
    (hafter : (timeline.onPage run (Archive.pageOf view all range) now).1.Sound all.length) :
    ((timeline.onPage run (Archive.pageOf view all range) now).1.exchange (all.map view)
      (orders ++ ordersOf timeline.kind (Command.queueOf
        ((timeline.onPage run (Archive.pageOf view all range) now).2.map Prod.fst)))).Orderly
      strays := by
  obtain ⟨_, haccepts⟩ := accepts_pageOf view hlt hstop hsound.numItems_le
  -- the page is merged first, and then the window may ask for more
  have hdemands := demands_onPage hsound haccepts (Nat.le_refl _) run now
  have hkind : (timeline.merged (Archive.pageOf view all range) now).kind = timeline.kind := by
    rw [merged_eq]
  rw [← hkind]
  refine orderly_demands hmerged hdemands ?_
  rw [List.length_map]
  exact hafter

variable (horderly : (timeline.exchange (all.map view) orders).Orderly strays)

include horderly in
/-- To store a page that was ordered is to deliver the order. -/
theorem orderly_merged {place : Nat} {order : Order} (hplace : orders[place]? = some order)
    (hopen : order.state ≠ .failed) (now : Nat) :
    ((timeline.merged (Archive.pageOf view all order.range) now).exchange (all.map view)
      (orders.set place { order with state := .delivered })).Orderly strays := by
  have hwhole := horderly.whole
  obtain ⟨_, hlt, hstop⟩ := hwhole.order_range order (List.mem_of_getElem? hplace)
  have hlength := Nat.le_trans hstop hwhole.total_le
  rw [exchange, List.length_map] at hlength
  have hdelivered := horderly.deliver hplace hopen
  rw [← pageOf_eq_batchOf view hlt hlength] at hdelivered
  rw [exchange, merged_eq]
  exact hdelivered

include horderly in
theorem orderly_merged_stray {range : Interval}
    (haligned : range.start % timeline.view.sequence.pageSize = 0)
    (hlt : range.start < range.stop) (hstop : range.stop ≤ all.length) (now : Nat) :
    ((timeline.merged (Archive.pageOf view all range) now).exchange (all.map view)
      orders).Orderly (range :: strays) := by
  have hlength : range.stop ≤ (all.map view).length := by rwa [List.length_map]
  have hdelivered := horderly.strayDeliver haligned hlt hlength
  rw [← pageOf_eq_batchOf view hlt hstop] at hdelivered
  rw [exchange, merged_eq]
  exact hdelivered

end Answers

end Timeline

/-! ## Scopes -/

namespace RunScope

variable {recording more : Recording} {scope before after : RunScope} {orders : List Order}
  {strays : List Interval} {kind : SequenceKind}

/-- One of the sequences and its recording are in an orderly exchange. -/
def Orderly (recording : Recording) (scope : RunScope) (orders : List Order)
    (strays : List Interval) : SequenceKind → Prop
  | .executions => Exchange.Orderly
      (scope.executions.digests.exchange (recording.executions.map Execution.digest) orders)
      strays
  | .graphExecutions => Exchange.Orderly
      (scope.graphExecutions.exchange (recording.graphExecutions.map id) orders) strays

theorem orderly_fresh (config : Config) (valid : config.Valid) (recording : Recording)
    (kind : SequenceKind) : (fresh config valid).Orderly recording [] [] kind := by
  cases kind with
  | executions => exact Exchange.orderly_start config.executions valid.1 _
  | graphExecutions => exact Exchange.orderly_start config.graphExecutions valid.2 _

theorem Orderly.grow (horderly : scope.Orderly recording orders strays kind)
    (hmore : recording.total kind ≤ more.total kind) :
    scope.Orderly more orders strays kind := by
  cases kind with
  | executions =>
      refine Exchange.Orderly.grow horderly ?_
      rw [Timeline.exchange, List.length_map, List.length_map]
      exact hmore
  | graphExecutions =>
      refine Exchange.Orderly.grow horderly ?_
      rw [Timeline.exchange, List.length_map, List.length_map]
      exact hmore

/-- An operation that asks enters what it asks for. -/
theorem orderly_demands (horderly : before.Orderly recording orders strays kind)
    (hsound : before.Sound recording.total) {queue : List PendingFetch}
    (hdemands : before.Demands after queue kind) (hafter : after.Sound recording.total) :
    after.Orderly recording (orders ++ ordersOf kind queue) strays kind := by
  cases kind with
  | executions =>
      have hdigests : after.executions.digests.Sound
          (recording.executions.map Execution.digest).length := by
        rw [List.length_map]
        exact hafter.digests
      have hentered := Timeline.orderly_demands horderly hdemands hdigests
      rw [hsound.digests_kind] at hentered
      exact hentered
  | graphExecutions =>
      have hgraph : after.graphExecutions.Sound (recording.graphExecutions.map id).length := by
        rw [List.length_map]
        exact hafter.graphExecutions
      have hentered := Timeline.orderly_demands horderly hdemands hgraph
      rw [hsound.graph_kind] at hentered
      exact hentered

/-! ### Answers -/

section Answers

variable (horderly : scope.Orderly recording orders strays kind)

section Replies

variable (hsound : scope.Sound recording.total) {reply : Reply} (run : RunId) (now : Nat)
  (hafter : (scope.onReply run now reply).1.Sound recording.total)

include horderly hsound hafter

/-- The page of an order. -/
theorem orderly_onReply {place : Nat} {order : Order} (hplace : orders[place]? = some order)
    (hopen : order.state ≠ .failed) (hreplies : recording.Replies (.page kind order.range) reply) :
    (scope.onReply run now reply).1.Orderly recording
      (orders.set place { order with state := .delivered } ++
        ordersOf kind (Command.queueOf ((scope.onReply run now reply).2.map Prod.fst)))
      strays kind := by
  cases kind with
  | executions =>
      cases hreplies
      obtain ⟨_, hlt, hstop⟩ := horderly.whole.order_range order (List.mem_of_getElem? hplace)
      have hpage := Timeline.orderly_onPage Execution.digest hlt
        (Nat.le_trans hstop hsound.digests.numItems_le) hsound.digests run now
        (Timeline.orderly_merged Execution.digest horderly hplace hopen now) hafter.digests
      rw [hsound.digests_kind] at hpage
      exact hpage
  | graphExecutions =>
      cases hreplies
      obtain ⟨_, hlt, hstop⟩ := horderly.whole.order_range order (List.mem_of_getElem? hplace)
      have hpage := Timeline.orderly_onPage id hlt
        (Nat.le_trans hstop hsound.graphExecutions.numItems_le) hsound.graphExecutions run now
        (Timeline.orderly_merged id horderly hplace hopen now) hafter.graphExecutions
      rw [hsound.graph_kind] at hpage
      exact hpage

/-- A page that this scope did not ask for. -/
theorem orderly_onReply_stray {range : Interval}
    (hproper : (Request.page kind range).Proper scope.geometry recording.total)
    (hreplies : recording.Replies (.page kind range) reply) :
    (scope.onReply run now reply).1.Orderly recording
      (orders ++ ordersOf kind (Command.queueOf ((scope.onReply run now reply).2.map Prod.fst)))
      (range :: strays) kind := by
  -- the fetch is of an earlier selection, and was a proper one then
  obtain ⟨haligned, hlt, hstop⟩ := hproper
  cases kind with
  | executions =>
      cases hreplies
      have hpage := Timeline.orderly_onPage Execution.digest hlt hstop hsound.digests run now
        (Timeline.orderly_merged_stray Execution.digest horderly haligned hlt hstop now)
        hafter.digests
      rw [hsound.digests_kind] at hpage
      exact hpage
  | graphExecutions =>
      cases hreplies
      have hpage := Timeline.orderly_onPage id hlt hstop hsound.graphExecutions run now
        (Timeline.orderly_merged_stray id horderly haligned hlt hstop now)
        hafter.graphExecutions
      rw [hsound.graph_kind] at hpage
      exact hpage

end Replies

include horderly

theorem orderly_onFetchFailed {place : Nat} {order : Order}
    (hplace : orders[place]? = some order) (hopen : order.state ≠ .failed) :
    (scope.onFetchFailed (.page kind order.range)).Orderly recording
      (orders.set place { order with state := .failed }) strays kind := by
  cases kind with
  | executions => exact Exchange.Orderly.fail horderly hplace hopen
  | graphExecutions => exact Exchange.Orderly.fail horderly hplace hopen

theorem orderly_onFetchFailed_stray {range : Interval}
    (hproper : (Request.page kind range).Proper scope.geometry recording.total) :
    (scope.onFetchFailed (.page kind range)).Orderly recording orders (range :: strays) kind := by
  obtain ⟨haligned, hlt, _⟩ := hproper
  cases kind with
  | executions => exact Exchange.Orderly.strayFail horderly haligned hlt
  | graphExecutions => exact Exchange.Orderly.strayFail horderly haligned hlt

end Answers

/-! ### Pages -/

/-- Whether a page of a sequence is being fetched. -/
def isInFlight (scope : RunScope) : SequenceKind → Nat → Bool
  | .executions => scope.executions.digests.view.sequence.isInFlight
  | .graphExecutions => scope.graphExecutions.view.sequence.isInFlight

/-- As long as no stray has a page, it is being fetched exactly when an order for it is
unanswered, and no order has it while an earlier one that has it is unanswered. -/
theorem Orderly.page_spec (horderly : scope.Orderly recording orders strays kind) {page : Nat}
    (hspared : ∀ stray ∈ strays,
      ¬ Order.Covers { range := stray } (scope.geometry kind).pageSize page) :
    (scope.isInFlight kind page = true ↔
      ∃ order ∈ orders, order.state = .unanswered ∧
        order.Covers (scope.geometry kind).pageSize page) ∧
    ∀ (first second : Nat) (one two : Order), orders[first]? = some one →
      orders[second]? = some two → first < second → one.state = .unanswered →
        one.Covers (scope.geometry kind).pageSize page →
          ¬ two.Covers (scope.geometry kind).pageSize page := by
  cases kind with
  | executions => exact Exchange.Orderly.page_spec horderly hspared
  | graphExecutions => exact Exchange.Orderly.page_spec horderly hspared

end RunScope

end TraceViewer
