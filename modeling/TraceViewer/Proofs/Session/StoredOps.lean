import TraceViewer.Proofs.Session.Holdings
import TraceViewer.Sample

/-!
# The ops of the store

The store keeps two tables side by side, one of ops and one of stages of loading, and three
things write to them: a request marks a stage, a failure corrects one, and an op that arrives
is written together with its neighbours.  What each does is said once, for every key:

* a request writes nothing but one stage, and only for an op that is neither held nor being
  loaded (`request_cases`);
* a correction changes the stage of an op that was asked for (`phase?_updatePhase`);
* an op that arrives is found under its own name, its neighbours under theirs, the last of a
  name winning and the op itself being last of all (`op?_onLoaded`, `takes_onLoaded`).

Hence three facts hold whatever comes in whatever order (`Orderly`): an op lies under its own
name, it embeds nothing, and one whose stage is loaded is held.  The views of the focused op
embed again what the store took out, so they are the edges of the op as they were, each with
the op that is held under its name (`shows_focused`).
-/

namespace TraceViewer

/-! ## Bare ops -/

namespace GraphOp

/-- Nothing is embedded in an op. -/
structure Bare (op : GraphOp) : Prop where
  inputs : ∀ input ∈ op.inputs, input.data = none
  consumers : ∀ slot ∈ op.consumers, ∀ consumer ∈ slot, consumer.data = none

theorem bare_stripped (op : GraphOp) : op.stripped.Bare where
  inputs := by
    intro input hinput
    obtain ⟨_, _, rfl⟩ := List.mem_map.mp hinput
    rfl
  consumers := by
    intro slot hslot consumer hconsumer
    obtain ⟨_, _, rfl⟩ := List.mem_map.mp hslot
    obtain ⟨_, _, rfl⟩ := List.mem_map.mp hconsumer
    rfl

/-! ## Embedded ops -/

variable {op neighbour : GraphOp}

/-- Whether an op is the data of an edge of another. -/
inductive Embeds (op neighbour : GraphOp) : Prop where
  | input (input : OpInput GraphOp) (hinput : input ∈ op.inputs)
      (hdata : input.data = some neighbour)
  | consumer (slot : List (OpConsumer GraphOp)) (consumer : OpConsumer GraphOp)
      (hslot : slot ∈ op.consumers) (hconsumer : consumer ∈ slot)
      (hdata : consumer.data = some neighbour)

/-- Whether an op is the data of an edge of another, and no later edge has data of its name.  The
inputs come first, and the consumers output by output. -/
inductive EmbedsLast (op neighbour : GraphOp) : Prop where
  | input (earlier later : List (OpInput GraphOp)) (input : OpInput GraphOp)
      (hinputs : op.inputs = earlier ++ input :: later) (hdata : input.data = some neighbour)
      (hlater : ∀ other ∈ later, ∀ found, other.data = some found →
        found.opName ≠ neighbour.opName)
      (hconsumers : ∀ slot ∈ op.consumers, ∀ other ∈ slot, ∀ found, other.data = some found →
        found.opName ≠ neighbour.opName)
  | consumer (earlierSlots laterSlots : List (List (OpConsumer GraphOp)))
      (earlier later : List (OpConsumer GraphOp)) (consumer : OpConsumer GraphOp)
      (hconsumers : op.consumers = earlierSlots ++ (earlier ++ consumer :: later) :: laterSlots)
      (hdata : consumer.data = some neighbour)
      (hlater : ∀ other ∈ later, ∀ found, other.data = some found →
        found.opName ≠ neighbour.opName)
      (hslots : ∀ slot ∈ laterSlots, ∀ other ∈ slot, ∀ found, other.data = some found →
        found.opName ≠ neighbour.opName)

theorem mem_neighbours_iff : neighbour ∈ op.neighbours ↔ op.Embeds neighbour := by
  rw [neighbours, List.mem_append, List.mem_filterMap, List.mem_filterMap]
  constructor
  · rintro (⟨input, hinput, hdata⟩ | ⟨consumer, hconsumer, hdata⟩)
    · exact .input input hinput hdata
    · obtain ⟨slot, hslot, hmem⟩ := List.mem_flatten.mp hconsumer
      exact .consumer slot consumer hslot hmem hdata
  · intro hembeds
    cases hembeds with
    | input input hinput hdata => exact Or.inl ⟨input, hinput, hdata⟩
    | consumer slot consumer hslot hconsumer hdata =>
        exact Or.inr ⟨consumer, List.mem_flatten.mpr ⟨slot, hslot, hconsumer⟩, hdata⟩

/-- Among the neighbours an op is last of its name when it is so among the edges. -/
theorem exists_neighbours_eq (hlast : op.EmbedsLast neighbour) :
    ∃ earlier later, op.neighbours = earlier ++ neighbour :: later ∧
      ∀ other ∈ later, other.opName ≠ neighbour.opName := by
  cases hlast with
  | input earlier later input hinputs hdata hlater hconsumers =>
      refine ⟨earlier.filterMap (·.data),
        later.filterMap (·.data) ++ op.consumers.flatten.filterMap (·.data), ?_, ?_⟩
      · rw [neighbours, hinputs, List.filterMap_append, List.filterMap_cons_some hdata,
          List.append_assoc, List.cons_append]
      · -- no later input embeds an op of the name, and neither does a consumer
        intro other hother
        rcases List.mem_append.mp hother with hinput | hconsumer
        · obtain ⟨edge, hedge, hfound⟩ := List.mem_filterMap.mp hinput
          exact hlater edge hedge other hfound
        · obtain ⟨edge, hedge, hfound⟩ := List.mem_filterMap.mp hconsumer
          obtain ⟨slot, hslot, hmem⟩ := List.mem_flatten.mp hedge
          exact hconsumers slot hslot edge hmem other hfound
  | consumer earlierSlots laterSlots earlier later consumer hconsumers hdata hlater hslots =>
      refine ⟨op.inputs.filterMap (·.data) ++ (earlierSlots.flatten ++ earlier).filterMap (·.data),
        (later ++ laterSlots.flatten).filterMap (·.data), ?_, ?_⟩
      · have hflat : op.consumers.flatten =
            (earlierSlots.flatten ++ earlier) ++ consumer :: (later ++ laterSlots.flatten) := by
          simp [hconsumers]
        rw [neighbours, hflat, List.filterMap_append, List.filterMap_cons_some hdata,
          List.append_assoc]
      · intro other hother
        obtain ⟨edge, hedge, hfound⟩ := List.mem_filterMap.mp hother
        rcases List.mem_append.mp hedge with hsame | hnext
        · exact hlater edge hsame other hfound
        · obtain ⟨slot, hslot, hmem⟩ := List.mem_flatten.mp hnext
          exact hslots slot hslot edge hmem other hfound

/-- The record of an op with no data in its edges. -/
def withoutData (op : GraphOp) : GraphOp :=
  { op with
    inputs := op.inputs.map fun input => { input with data := none }
    consumers := op.consumers.map fun slot => slot.map fun consumer =>
      { consumer with data := none } }

theorem stripped_eq_withoutData (op : GraphOp) : op.stripped = op.withoutData := rfl

end GraphOp

namespace OpStore

variable {store : OpStore} {op : GraphOp} {key : GraphOpKey} {graphId : String}

/-! ## Tables -/

/-- The ops that an arriving op brings. -/
def arrivals (op : GraphOp) : List GraphOp := op.neighbours.map GraphOp.stripped ++ [op.stripped]

/-- The last of several ops of a name wins. -/
theorem getElem?_insertAll_eq (table : OpTable) (ops : List GraphOp) (name : String) :
    (insertAll table ops)[name]? = (ops.reverse.find? (·.opName = name)).or table[name]? := by
  induction ops generalizing table with
  | nil => rfl
  | cons head rest ih =>
      have hstep : insertAll table (head :: rest) =
          insertAll (table.insert head.opName head) rest := rfl
      rw [hstep, ih, List.reverse_cons, List.find?_append, Option.or_assoc,
        Std.ExtTreeMap.getElem?_insert]
      congr 1
      by_cases hsame : head.opName = name <;> simp [hsame]

theorem insertAll_insertAll (table : OpTable) (ops : List GraphOp) :
    insertAll (insertAll table ops) ops = insertAll table ops := by
  refine Std.ExtTreeMap.ext_getElem? fun name => ?_
  rw [getElem?_insertAll_eq (insertAll table ops), getElem?_insertAll_eq, ← Option.or_assoc,
    Option.or_self]

/-! ## What an arriving op brings -/

/-- What an arriving op brings under a name, if anything. -/
def brought? (op : GraphOp) (name : String) : Option GraphOp :=
  (arrivals op).reverse.find? (·.opName = name)

theorem mem_arrivals {found : GraphOp} :
    found ∈ arrivals op ↔ ∃ source, (source = op ∨ source ∈ op.neighbours) ∧
      source.stripped = found := by
  simp [arrivals, or_and_right, exists_or, or_comm, eq_comm]

/-- It lies under its own name and embeds nothing. -/
theorem mem_of_brought? {name : String} {found : GraphOp} (hfound : brought? op name = some found) :
    found ∈ arrivals op ∧ found.opName = name := by
  constructor
  · exact List.mem_reverse.mp (List.mem_of_find?_eq_some hfound)
  · simpa using List.find?_some hfound

/-- The op itself wins over its neighbours. -/
theorem brought?_self (op : GraphOp) : brought? op op.opName = some op.stripped := by
  rw [brought?, arrivals, List.reverse_append]
  exact List.find?_cons_of_pos (decide_eq_true rfl)

theorem brought?_of_ne {name : String} (hname : name ≠ op.opName) :
    brought? op name = (op.neighbours.reverse.find? (·.opName = name)).map GraphOp.stripped := by
  have hself : ¬ op.stripped.opName = name := fun heq => hname heq.symm
  rw [brought?, arrivals, List.reverse_append, List.reverse_singleton, List.singleton_append,
    List.find?_cons_of_neg (by simpa using hself), ← List.map_reverse, List.find?_map]
  rfl

/-- Of its neighbours the last of a name wins. -/
theorem brought?_neighbour {earlier later : List GraphOp} {neighbour : GraphOp}
    (hneighbours : op.neighbours = earlier ++ neighbour :: later)
    (hname : neighbour.opName ≠ op.opName)
    (hlast : ∀ other ∈ later, other.opName ≠ neighbour.opName) :
    brought? op neighbour.opName = some neighbour.stripped := by
  have hlater : later.reverse.find? (·.opName = neighbour.opName) = none := by
    rw [List.find?_eq_none]
    intro other hother
    simpa using hlast other (List.mem_reverse.mp hother)
  rw [brought?_of_ne hname, hneighbours, List.reverse_append, List.reverse_cons,
    List.find?_append, List.find?_append, hlater]
  simp

theorem isSome_brought?_iff {name : String} :
    (brought? op name).isSome = true ↔
      name = op.opName ∨ ∃ neighbour ∈ op.neighbours, neighbour.opName = name := by
  rw [brought?, List.find?_isSome]
  simp only [List.mem_reverse, mem_arrivals, decide_eq_true_eq]
  constructor
  · rintro ⟨_, ⟨source, rfl | hsource, rfl⟩, rfl⟩
    · exact Or.inl rfl
    · exact Or.inr ⟨source, hsource, rfl⟩
  · rintro (rfl | ⟨neighbour, hneighbour, rfl⟩)
    · exact ⟨_, ⟨op, Or.inl rfl, rfl⟩, rfl⟩
    · exact ⟨_, ⟨neighbour, Or.inr hneighbour, rfl⟩, rfl⟩

/-! ## Stages -/

/-- Correcting a stage changes no other, and makes none where there was none. -/
theorem phase?_updatePhase (store : OpStore) (key : GraphOpKey) (phase : LoadPhase)
    (other : GraphOpKey) :
    (store.updatePhase key phase).phase? other =
      if key = other then (store.phase? other).map fun _ => phase else store.phase? other := by
  rw [updatePhase]
  by_cases hasked : (store.phase? key).isSome
  · rw [if_pos hasked, phase?_setPhase]
    split_ifs with hkey
    · obtain ⟨stage, hstage⟩ := Option.isSome_iff_exists.mp hasked
      rw [← hkey, hstage, Option.map_some]
    · rfl
  · rw [if_neg hasked]
    split_ifs with hkey
    · rw [← hkey, Option.not_isSome_iff_eq_none.mp hasked, Option.map_none]
    · rfl

/-- Correcting the stage of one op leaves the stages of the others. -/
theorem phase_updatePhase_of_ne (store : OpStore) {key other : GraphOpKey} (hne : key ≠ other)
    (phase : LoadPhase) : (store.updatePhase key phase).phase other = store.phase other := by
  rw [OpStore.phase, phase?_updatePhase, if_neg hne, OpStore.phase]

/-- Correcting a stage leaves the ops. -/
theorem op?_updatePhase (store : OpStore) (key other : GraphOpKey) (phase : LoadPhase) :
    (store.updatePhase key phase).op? other = store.op? other := by
  rw [op?, RunScope.graphs_updatePhase, op?]

/-! ## Arrivals -/

/-- After an op arrived, a key has what the op brings under it, and else what it had. -/
theorem op?_onLoaded (store : OpStore) (hgraph : op.graphId? = some graphId) (key : GraphOpKey) :
    (store.onLoaded op).1.op? key =
      if graphId = key.graphId then (brought? op key.opName).or (store.op? key)
      else store.op? key := by
  let table := insertAll (store.graphs[graphId]?.getD ∅) (arrivals op)
  let extended : OpStore := { store with graphs := store.graphs.insert graphId table }
  -- correcting the stages touches no op
  have hloaded : (store.onLoaded op).1.op? key = extended.op? key := by
    rw [onLoaded, hgraph]
    exact op?_updatePhase extended _ key .loaded
  rw [hloaded, op?, Std.ExtTreeMap.getElem?_insert]
  by_cases hsame : graphId = key.graphId
  · rw [if_pos (by simpa using hsame), if_pos hsame, Option.bind_some, getElem?_insertAll_eq, op?,
      hsame]
    cases store.graphs[key.graphId]? <;> rfl
  · rw [if_neg (by simpa using hsame), if_neg hsame, op?]

/-- An op that is held stays so, whichever op arrives. -/
theorem isSome_op?_onLoaded (store : OpStore) (op : GraphOp) {key : GraphOpKey}
    (hheld : (store.op? key).isSome) : ((store.onLoaded op).1.op? key).isSome := by
  cases hgraph : op.graphId? with
  | none =>
      rw [onLoaded, hgraph]
      exact hheld
  | some graphId =>
      rw [op?_onLoaded store hgraph]
      split_ifs
      · rw [Option.isSome_or, hheld, Bool.or_true]
      · exact hheld

/-- An op that arrived is held. -/
theorem isSome_op?_onLoaded_self (store : OpStore) (hgraph : op.graphId? = some graphId) :
    ((store.onLoaded op).1.op? { graphId, opName := op.opName }).isSome := by
  rw [op?_onLoaded store hgraph, if_pos rfl, brought?_self]
  rfl

theorem focused_onLoaded (store : OpStore) (op : GraphOp) :
    (store.onLoaded op).1.focused = store.focused := by
  rw [onLoaded]
  split
  · rfl
  · dsimp only
    rw [updatePhase]
    split_ifs <;> rfl

/-- What a store makes of an op that arrives in a graph. -/
structure Takes (before : OpStore) (op : GraphOp) (graphId : String) (after : OpStore) :
    Prop where
  /-- The op itself is held, whatever op of its name it embeds. -/
  main : after.op? { graphId, opName := op.opName } = some op.withoutData
  /-- So is every op that it embeds, in an input or in a consumer, the last of a name winning. -/
  embedded : ∀ neighbour, op.EmbedsLast neighbour → neighbour.opName ≠ op.opName →
    after.op? { graphId, opName := neighbour.opName } = some neighbour.withoutData
  held : ∀ neighbour, op.Embeds neighbour →
    (after.op? { graphId, opName := neighbour.opName }).isSome = true
  /-- Nothing is held under other names, or in other graphs, that was not held before. -/
  untouched : ∀ key, (key.graphId = graphId → key.opName ≠ op.opName ∧
      ∀ neighbour, op.Embeds neighbour → neighbour.opName ≠ key.opName) →
    after.op? key = before.op? key
  /-- The stage of the op is loaded, if it was asked for. -/
  phase_main : after.phase? { graphId, opName := op.opName } =
    (before.phase? { graphId, opName := op.opName }).map fun _ => .loaded
  phase_other : ∀ key, key ≠ { graphId, opName := op.opName } →
    after.phase? key = before.phase? key
  focused_eq : after.focused = before.focused

theorem takes_onLoaded (store : OpStore) (hgraph : op.graphId? = some graphId) :
    ∃ after, store.onLoaded op = (after, .ok ()) ∧ store.Takes op graphId after := by
  have hphase : ∀ key, (store.onLoaded op).1.phase? key =
      if { graphId, opName := op.opName } = key then (store.phase? key).map fun _ => .loaded
      else store.phase? key := by
    intro key
    rw [onLoaded, hgraph]
    exact phase?_updatePhase _ _ .loaded key
  refine ⟨(store.onLoaded op).1, by rw [onLoaded, hgraph], ?_⟩
  constructor
  case main =>
    rw [op?_onLoaded store hgraph, if_pos rfl, brought?_self, Option.some_or,
      GraphOp.stripped_eq_withoutData]
  case embedded =>
    intro neighbour hlast hname
    -- of ops of one name the last that is embedded stays
    obtain ⟨earlier, later, hneighbours, hlater⟩ := GraphOp.exists_neighbours_eq hlast
    rw [op?_onLoaded store hgraph, if_pos rfl, brought?_neighbour hneighbours hname hlater,
      Option.some_or, GraphOp.stripped_eq_withoutData]
  case held =>
    intro neighbour hembeds
    have hbrought : (brought? op neighbour.opName).isSome = true :=
      isSome_brought?_iff.mpr (Or.inr ⟨neighbour, GraphOp.mem_neighbours_iff.mpr hembeds, rfl⟩)
    rw [op?_onLoaded store hgraph, if_pos rfl, Option.isSome_or, hbrought, Bool.true_or]
  case untouched =>
    intro key hother
    rw [op?_onLoaded store hgraph]
    split_ifs with hsame
    · obtain ⟨hname, hembedded⟩ := hother hsame.symm
      -- neither the op nor one that it embeds goes by the name
      have hnothing : brought? op key.opName = none := by
        rw [← Option.not_isSome_iff_eq_none, isSome_brought?_iff]
        rintro (heq | ⟨neighbour, hneighbour, heq⟩)
        · exact hname heq
        · exact hembedded neighbour (GraphOp.mem_neighbours_iff.mp hneighbour) heq
      rw [hnothing, Option.none_or]
    · rfl
  case phase_main => rw [hphase, if_pos rfl]
  case phase_other =>
    intro key hkey
    rw [hphase, if_neg hkey.symm]
  case focused_eq => exact store.focused_onLoaded op

/-! ## Requests -/

/-- A request is for an op that is neither held nor being loaded, and marks it; or nothing
happens. -/
theorem request_cases (store : OpStore) (key : GraphOpKey) :
    ((store.op? key).isSome ∨ store.phase key = .loading) ∧ store.request key = (store, false) ∨
      ¬ ((store.op? key).isSome ∨ store.phase key = .loading) ∧
        store.request key = (store.setPhase key .loading, true) := by
  rw [request]
  split_ifs with hsought
  · exact Or.inl ⟨hsought, rfl⟩
  · exact Or.inr ⟨hsought, rfl⟩

/-! ## Histories -/

/-- One thing that a store is told. -/
inductive Act where
  | request (key : GraphOpKey)
  | fail (key : GraphOpKey)
  | arrive (op : GraphOp)
  | focus (key : GraphOpKey)

/-- What a store makes of it, accepted or not. -/
def perform (store : OpStore) : Act → OpStore
  | .request key => (store.request key).1
  | .fail key => store.onFailed key
  | .arrive op => (store.onLoaded op).1
  | .focus key => store.focus key

/-- Tell a store one thing after the other. -/
def performAll (store : OpStore) (acts : List Act) : OpStore := acts.foldl perform store

/-- What holds of a store at all times. -/
structure Orderly (store : OpStore) : Prop where
  named : ∀ key op, store.op? key = some op → op.opName = key.opName
  bare : ∀ key op, store.op? key = some op → op.Bare
  loaded : ∀ key, store.phase key = .loaded → (store.op? key).isSome

theorem orderly_empty : ({} : OpStore).Orderly := by
  constructor <;> simp [op?, phase, phase?]

theorem orderly_request (horderly : store.Orderly) (key : GraphOpKey) :
    (store.request key).1.Orderly := by
  rcases store.request_cases key with ⟨_, hrequest⟩ | ⟨_, hrequest⟩ <;> rw [hrequest]
  · exact horderly
  · refine ⟨horderly.named, horderly.bare, fun other hloaded => ?_⟩
    rw [phase_setPhase] at hloaded
    split_ifs at hloaded
    exact horderly.loaded other hloaded

theorem orderly_onFailed (horderly : store.Orderly) (key : GraphOpKey) :
    (store.onFailed key).Orderly := by
  constructor
  case named =>
    intro other op hop
    rw [onFailed, op?_updatePhase] at hop
    exact horderly.named other op hop
  case bare =>
    intro other op hop
    rw [onFailed, op?_updatePhase] at hop
    exact horderly.bare other op hop
  case loaded =>
    intro other hloaded
    rw [onFailed, op?_updatePhase]
    refine horderly.loaded other ?_
    rw [onFailed, phase, phase?_updatePhase] at hloaded
    split_ifs at hloaded
    · -- a stage that failed is not loaded, and where there is none it is not either
      cases hstage : store.phase? other <;> rw [hstage] at hloaded <;> cases hloaded
    · exact hloaded

theorem orderly_onLoaded (horderly : store.Orderly) (op : GraphOp) :
    (store.onLoaded op).1.Orderly := by
  cases hgraph : op.graphId? with
  | none =>
      rw [onLoaded, hgraph]
      exact horderly
  | some graphId =>
      -- an op that is held afterwards was brought, or it was held before
      have hsource : ∀ key found, (store.onLoaded op).1.op? key = some found →
          brought? op key.opName = some found ∨ store.op? key = some found := by
        intro key found hfound
        rw [op?_onLoaded store hgraph] at hfound
        split_ifs at hfound
        · exact (Option.or_eq_some_iff.mp hfound).imp id And.right
        · exact Or.inr hfound
      obtain ⟨after, hloaded, htakes⟩ := store.takes_onLoaded hgraph
      constructor
      case named =>
        intro key found hfound
        rcases hsource key found hfound with hbrought | hheld
        · exact (mem_of_brought? hbrought).2
        · exact horderly.named key found hheld
      case bare =>
        intro key found hfound
        rcases hsource key found hfound with hbrought | hheld
        · obtain ⟨source, _, rfl⟩ := mem_arrivals.mp (mem_of_brought? hbrought).1
          exact source.bare_stripped
        · exact horderly.bare key found hheld
      case loaded =>
        intro key hphase
        by_cases hkey : key = { graphId, opName := op.opName }
        · rw [hkey]
          exact store.isSome_op?_onLoaded_self hgraph
        · refine store.isSome_op?_onLoaded op (horderly.loaded key ?_)
          rw [hloaded, phase, htakes.phase_other key hkey] at hphase
          exact hphase

/-- Nothing that a store is told upsets it. -/
theorem orderly_perform (horderly : store.Orderly) (act : Act) : (store.perform act).Orderly := by
  cases act with
  | request key => exact orderly_request horderly key
  | fail key => exact orderly_onFailed horderly key
  | arrive op => exact orderly_onLoaded horderly op
  | focus key => exact ⟨horderly.named, horderly.bare, horderly.loaded⟩

theorem orderly_performAll (horderly : store.Orderly) (acts : List Act) :
    (store.performAll acts).Orderly := by
  induction acts generalizing store with
  | nil => exact horderly
  | cons act rest ih => exact ih (orderly_perform horderly act)

/-! ## Views of the focused op -/

/-- What the views show of an op: its edges as they are, each with the op that is held under
its name in the same graph. -/
structure Shows (store : OpStore) (key : GraphOpKey) (op : GraphOp)
    (inputs : List (OpInput GraphOp)) (consumers : List (List (OpConsumer GraphOp))) : Prop where
  inputs_eq : inputs.map (fun input => { input with data := none }) = op.inputs
  input_data : ∀ input ∈ inputs, input.data = store.op? { key with opName := input.opName }
  consumers_eq : consumers.map (fun slot => slot.map fun consumer =>
    { consumer with data := none }) = op.consumers
  consumer_data : ∀ slot ∈ consumers, ∀ consumer ∈ slot,
    consumer.data = store.op? { key with opName := consumer.opName }

theorem shows_embed (store : OpStore) (key : GraphOpKey) (hbare : op.Bare) :
    let shown := op.embed fun name => store.op? { key with opName := name }
    store.Shows key op shown.inputs shown.consumers := by
  intro shown
  constructor
  case inputs_eq =>
    have hkept : ∀ input ∈ op.inputs, { input with data := none } = input := by
      intro input hinput
      rw [← hbare.inputs input hinput]
    calc shown.inputs.map (fun input => { input with data := none })
        = op.inputs.map fun input => { input with data := none } := by
          simp [shown, GraphOp.embed, Function.comp_def]
      _ = op.inputs := (List.map_congr_left hkept).trans (List.map_id' _)
  case input_data =>
    intro input hinput
    obtain ⟨_, _, rfl⟩ := List.mem_map.mp hinput
    rfl
  case consumers_eq =>
    have hkept : ∀ slot ∈ op.consumers,
        slot.map (fun consumer => { consumer with data := none }) = slot := by
      intro slot hslot
      have hconsumers : ∀ consumer ∈ slot, { consumer with data := none } = consumer := by
        intro consumer hconsumer
        rw [← hbare.consumers slot hslot consumer hconsumer]
      exact (List.map_congr_left hconsumers).trans (List.map_id' _)
    calc shown.consumers.map (fun slot => slot.map fun consumer => { consumer with data := none })
        = op.consumers.map fun slot => slot.map fun consumer => { consumer with data := none } := by
          simp [shown, GraphOp.embed, Function.comp_def]
      _ = op.consumers := (List.map_congr_left hkept).trans (List.map_id' _)
  case consumer_data =>
    intro slot hslot consumer hconsumer
    obtain ⟨_, _, rfl⟩ := List.mem_map.mp hslot
    obtain ⟨_, _, rfl⟩ := List.mem_map.mp hconsumer
    rfl

theorem shows_focused (horderly : store.Orderly) (hfocused : store.focused = some key)
    (hheld : store.op? key = some op) :
    ∃ inputs consumers, store.focusedInputs = some inputs ∧
      store.focusedConsumers = some consumers ∧ store.Shows key op inputs consumers := by
  have hannotated : store.annotatedOp =
      some (op.embed fun name => store.op? { key with opName := name }) := by
    rw [annotatedOp, hfocused, Option.bind_some, hheld, Option.map_some]
  refine ⟨_, _, ?_, ?_, store.shows_embed key (horderly.bare key op hheld)⟩
  · rw [focusedInputs, hannotated, Option.map_some]
  · rw [focusedConsumers, hannotated, Option.map_some]

/-- Nothing is shown of an op that is not held. -/
theorem hides_missing (hmissing : store.focusedOp = none) :
    store.focusedInputs = none ∧ store.focusedConsumers = none := by
  have hannotated : store.annotatedOp = none := by
    rw [focusedOp] at hmissing
    rw [annotatedOp]
    cases hfocused : store.focused with
    | none => rfl
    | some key =>
        rw [hfocused, Option.bind_some] at hmissing
        rw [Option.bind_some, hmissing, Option.map_none]
  constructor
  · rw [focusedInputs, hannotated, Option.map_none]
  · rw [focusedConsumers, hannotated, Option.map_none]

/-! ## Every history of a store -/

/-- Whatever a store was told: it is orderly, asks for no op that it holds, takes an op that
names a graph around it together with its neighbours and refuses any other, and shows of the
focused op its edges with the ops that it holds. -/
theorem ops_stored_orderly (acts : List Act) :
    let store := ({} : OpStore).performAll acts
    store.Orderly ∧
    (∀ key, (store.op? key).isSome → store.request key = (store, false)) ∧
    (∀ op graphId, op.graphIds.getLast? = some graphId →
      ∃ after, store.onLoaded op = (after, .ok ()) ∧ store.Takes op graphId after) ∧
    (∀ op, op.graphIds = [] →
      store.onLoaded op = (store, .error (.invalidArgument (.opOutsideGraphs op.opName)))) ∧
    (∀ key op, store.focused = some key → store.op? key = some op →
      ∃ inputs consumers, store.focusedInputs = some inputs ∧
        store.focusedConsumers = some consumers ∧ store.Shows key op inputs consumers) ∧
    (store.focusedOp = none → store.focusedInputs = none ∧ store.focusedConsumers = none) := by
  intro store
  have horderly : store.Orderly := orderly_performAll orderly_empty acts
  refine ⟨horderly, ?_, fun op graphId hgraph => store.takes_onLoaded hgraph, ?_,
    fun key op => shows_focused horderly, hides_missing⟩
  · intro key hheld
    exact if_pos (Or.inl hheld)
  · intro op houtside
    have hgraph : op.graphId? = none := by rw [GraphOp.graphId?, houtside, List.getLast?_nil]
    rw [onLoaded, hgraph]

/-- An op that reads itself, that has two neighbours of one name, and that reads a third which
embeds an op of its own. -/
def selfReading : GraphOp :=
  let neighbour (opType opName : String) : GraphOp :=
    { Sample.graphOp "g" opName [] [] with opType }
  let third := { neighbour "Third" "c" with inputs := [⟨"d", 0, some (neighbour "Fourth" "d")⟩] }
  { Sample.graphOp "g" "a" [] [] with
    opType := "Main"
    inputs := [⟨"b", 0, some (neighbour "First" "b")⟩, ⟨"a", 0, some (neighbour "Loop" "a")⟩,
      ⟨"c", 0, some third⟩]
    consumers := [[⟨"b", 0, some (neighbour "Second" "b")⟩]] }

/-- The op wins over the neighbour that stands for it, the later neighbour wins over the
earlier, the input without a rival is held bare, and the views embed the winners. -/
theorem ops_stored_on_name_clash :
    let main : GraphOpKey := { graphId := "g", opName := "a" }
    let store := ({} : OpStore).performAll
      [.request main, .focus main, .fail main, .arrive selfReading]
    store.phase main = .loaded ∧ (store.op? main).map (·.opType) = some "Main" ∧
      (store.op? { main with opName := "b" }).map (·.opType) = some "Second" ∧
      (store.op? { main with opName := "c" }).map (fun op =>
        (op.opType, op.inputs.map fun input => (input.opName, input.data.isSome))) =
        some ("Third", [("d", false)]) ∧
      (store.op? { main with opName := "d" }).map (·.opType) = none ∧
      store.focusedInputs.map (·.map fun input => input.data.map (·.opType)) =
        some [some "Second", some "Main", some "Third"] ∧
      store.Orderly ∧ store.request main = (store, false) := by
  intro main store
  obtain ⟨horderly, hunasked, _⟩ := ops_stored_orderly
    [.request main, .focus main, .fail main, .arrive selfReading]
  exact ⟨by decide +kernel, by decide +kernel, by decide +kernel, by decide +kernel,
    by decide +kernel, by decide +kernel, horderly, hunasked main (by decide +kernel)⟩

end OpStore

end TraceViewer
