import TraceViewer.Simulation.Basic

/-!
# Storms

A storm drives a simulation with random scrolls and with deliveries out of order,
twice, or failed, and in the end delivers whatever is pending.  The random numbers
come from a seed, so the same storm can be repeated.
-/

namespace TraceViewer

/-! ## Random numbers -/

/-- A linear congruential generator of 64-bit numbers. -/
structure RandomState where
  state : UInt64
deriving Repr, DecidableEq

namespace RandomState

/-- The generator of a seed. -/
def ofSeed (seed : UInt64) : RandomState := ⟨seed + 1⟩

/-- The next number, which is also the next state. -/
def next (random : RandomState) : RandomState :=
  ⟨random.state * 6364136223846793005 + 1442695040888963407⟩

/-- A number below `bound`, made of the upper half of the next number.  A bound of
zero gives zero and takes no number. -/
def below (random : RandomState) (bound : Nat) : RandomState × Nat :=
  if bound = 0 then (random, 0)
  else (random.next, (random.next.state >>> 33).toNat % bound)

/-- Whether something with a given chance happens: the upper 53 bits of the next
number, as a fraction, are compared with the chance. -/
def happens (random : RandomState) (chance : Float) : RandomState × Bool :=
  (random.next,
    (random.next.state >>> 11).toFloat / 9007199254740992.0 < chance)

end RandomState

/-! ## Actions -/

/-- How a storm behaves.  Chances lie between zero and one. -/
structure StormConfig where
  seed : UInt64 := 0
  /-- The number of actions before the final deliveries. -/
  steps : Nat := 100
  /-- How often an action scrolls even though fetches are pending. -/
  scrollChance : Float := 0.3
  /-- How often a delivered fetch stays in the queue. -/
  duplicateChance : Float := 0.15
  /-- How often a fetch fails. -/
  failChance : Float := 0.1
deriving Repr, Inhabited

/-- One action of a storm. -/
inductive StormAction where
  | scrollLeft (kind : SequenceKind)
  | scrollRight (kind : SequenceKind)
  | scrollToIndex (kind : SequenceKind) (index : Nat)
  | deliver (index : Nat)
  | duplicate (index : Nat)
  | fail (index : Nat)
  /-- The sequence to scroll has no items. -/
  | idle
deriving Repr, DecidableEq

/-- What a storm did.  The checksum by which recorded storms are compared is left out: it is a
hash of the actions by a hash function that is not specified, and says no more than they do. -/
structure StormReport where
  actions : List StormAction
  /-- How many fetches were delivered in the end. -/
  drained : Nat
deriving Repr, DecidableEq

namespace StormAction

/-- Whether an action delivers a fetch and takes it out of the queue. -/
def isDelivery : StormAction → Bool
  | .deliver _ => true
  | _ => false

end StormAction

namespace Storm

variable {Source : Type}

/-- Choose a way of scrolling.  One time in four the executions inside graphs are
scrolled, and otherwise the top-level executions. -/
def chooseScroll (random : RandomState) (scope : RunScope) : RandomState × StormAction :=
  let (random, quarter) := random.below 4
  let kind : SequenceKind := if quarter = 0 then .graphExecutions else .executions
  if scope.numItems kind = 0 then (random, .idle)
  else
    let (random, way) := random.below 3
    if way = 0 then (random, .scrollLeft kind)
    else if way = 1 then (random, .scrollRight kind)
    else
      let last := (scope.window kind).maxScrollBegin (scope.numItems kind)
      let (random, index) := random.below (last + 1)
      (random, .scrollToIndex kind index)

/-- Choose what becomes of a pending fetch. -/
def chooseDelivery (config : StormConfig) (random : RandomState) (pending : Nat) :
    RandomState × StormAction :=
  let (random, index) := random.below pending
  let (random, fails) := random.happens config.failChance
  if fails then (random, .fail index)
  else
    let (random, duplicates) := random.happens config.duplicateChance
    (random, if duplicates then .duplicate index else .deliver index)

/-- Choose the next action.  Without a pending fetch there is nothing to do but
scroll. -/
def chooseAction (config : StormConfig) (random : RandomState)
    (simulation : Simulation Source) : RandomState × StormAction :=
  let pending := simulation.pending.length
  if pending = 0 then chooseScroll random simulation.session.scope
  else
    let (random, scrolls) := random.happens config.scrollChance
    if scrolls then chooseScroll random simulation.session.scope
    else chooseDelivery config random pending

/-- Carry out an action. -/
def perform [DataSource Source] (simulation : Simulation Source) :
    StormAction → Simulation Source
  | .scrollLeft kind => simulation.send (.scrollLeft kind)
  | .scrollRight kind => simulation.send (.scrollRight kind)
  | .scrollToIndex kind index => simulation.send (.scrollToIndex kind index)
  | .deliver index => (simulation.deliverAt? index).getD simulation
  | .duplicate index => (simulation.duplicateAt? index).getD simulation
  | .fail index => (simulation.failAt? index).getD simulation
  | .idle => simulation

/-- How far the clock moves on after each action. -/
def stepTime : Nat := 10

/-- Carry out `steps` actions and list them. -/
def blow [DataSource Source] (config : StormConfig) :
    Nat → RandomState → Simulation Source → Simulation Source × List StormAction
  | 0, _, simulation => (simulation, [])
  | steps + 1, random, simulation =>
    let (random, action) := chooseAction config random simulation
    let (final, actions) :=
      blow config steps random ((perform simulation action).advance stepTime)
    (final, action :: actions)

/-- Run a storm: its actions, and then the deliveries of whatever is pending. -/
def run [DataSource Source] (config : StormConfig) (simulation : Simulation Source) :
    Simulation Source × StormReport :=
  let (blown, actions) := blow config config.steps (.ofSeed config.seed) simulation
  let (final, drained) := blown.deliverAll
  (final, { actions, drained })

end Storm

end TraceViewer
