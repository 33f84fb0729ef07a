import TraceViewer.Proofs.Session.Holdings
import TraceViewer.Proofs.Session.Redelivery
import TraceViewer.Proofs.Session.Responses
import TraceViewer.Sample

/-!
# The record of alerts

Alerts arrive in batches that may overlap, come out of order, or come again.  For every ordinal the
first alert that is delivered stays (`AlertShelf.getElem?_alerts_putAll`), so while a selection
lasts a board holds what it held before, and else what the first batch with the ordinal brought
(`alert?_applyAll`).

The tables of executions are entered together with the alerts, or not at all.  They say what the
alerts point at that are held, and not what the latest batch says (`AlertShelf.Indexed`), and so do
the views that are read off them (`AlertBoard.agrees_of_indexed`).

Only a batch for the active run changes the shelves: everything else that a session does leaves them
(`shelves_apply`).
-/

namespace TraceViewer

/-! ## Tables -/

section Tables

variable {α : Type} {table : Std.ExtTreeMap Nat α} {value : α}

theorem mem_map_snd_toList_iff :
    value ∈ table.toList.map Prod.snd ↔ ∃ key : Nat, table[key]? = some value := by
  simp [Std.ExtTreeMap.mem_toList_iff_getElem?_eq_some]

theorem map_snd_head?_toList (table : Std.ExtTreeMap Nat α) :
    table.toList.head?.map Prod.snd = table.minKey?.bind fun key => table[key]? := by
  rw [Std.ExtTreeMap.minKey?_eq_head?_keys, ← Std.ExtTreeMap.map_fst_toList_eq_keys,
    List.head?_map]
  cases hhead : table.toList.head? with
  | none => rfl
  | some entry =>
      exact (Std.ExtTreeMap.mem_toList_iff_getElem?_eq_some.mp (List.mem_of_mem_head? hhead)).symm

/-- The first entry of a table is the one of the least key. -/
theorem map_snd_head?_toList_eq_some_iff :
    table.toList.head?.map Prod.snd = some value ↔
      ∃ key : Nat, table[key]? = some value ∧ ∀ earlier < key, table[earlier]? = none := by
  simp only [map_snd_head?_toList, Option.bind_eq_some_iff,
    Std.ExtTreeMap.minKey?_eq_some_iff_mem_and_forall, Nat.isLE_compare]
  constructor
  · rintro ⟨key, ⟨_, hleast⟩, hkey⟩
    refine ⟨key, hkey, fun earlier hearlier => Std.ExtTreeMap.getElem?_eq_none fun hheld => ?_⟩
    exact absurd (hleast earlier hheld) (Nat.not_le.mpr hearlier)
  · rintro ⟨key, hkey, hnone⟩
    refine ⟨key, ⟨?_, fun other hother => ?_⟩, hkey⟩
    · exact Std.ExtTreeMap.mem_iff_isSome_getElem?.mpr (by rw [hkey]; rfl)
    · by_contra hlt
      have hheld := Std.ExtTreeMap.mem_iff_isSome_getElem?.mp hother
      rw [hnone other (Nat.not_le.mp hlt)] at hheld
      cases hheld

end Tables

/-! ## What an alert points at -/

namespace Alert

variable {alert : Alert} {index : Nat}

/-- The top-level execution that an alert points at, by its record: one about infinite values
always points at one, one about shapes may, and one about recompiled functions never does. -/
inductive PointsAt : Alert → Nat → Prop where
  | infNan (alert : InfNanAlert) : PointsAt (.infNan alert) alert.executionIndex
  | tensorShape (alert : TensorShapeAlert) (index : Nat)
      (hindex : alert.executionIndex = some index) : PointsAt (.tensorShape alert) index

/-- The execution inside a graph that an alert points at, by its record. -/
inductive PointsIntoGraphAt : Alert → Nat → Prop where
  | infNan (alert : InfNanAlert) (index : Nat) (hindex : alert.graphExecutionIndex = some index) :
      PointsIntoGraphAt (.infNan alert) index
  | tensorShape (alert : TensorShapeAlert) (index : Nat)
      (hindex : alert.graphExecutionIndex = some index) :
      PointsIntoGraphAt (.tensorShape alert) index

theorem executionIndex?_eq_some_iff : alert.executionIndex? = some index ↔ alert.PointsAt index := by
  constructor
  · intro hindex
    cases alert with
    | functionRecompiles alert => cases hindex
    | infNan alert =>
        cases hindex
        exact .infNan alert
    | tensorShape alert => exact .tensorShape alert index hindex
  · intro hpoints
    cases hpoints with
    | infNan alert => rfl
    | tensorShape alert _ hindex => exact hindex

theorem graphExecutionIndex?_eq_some_iff :
    alert.graphExecutionIndex? = some index ↔ alert.PointsIntoGraphAt index := by
  constructor
  · intro hindex
    cases alert with
    | functionRecompiles alert => cases hindex
    | infNan alert => exact .infNan alert index hindex
    | tensorShape alert => exact .tensorShape alert index hindex
  · intro hpoints
    cases hpoints with
    | infNan alert _ hindex => exact hindex
    | tensorShape alert _ hindex => exact hindex

end Alert

/-! ## Shelves -/

/-- Alerts of a kind with consecutive ordinals. -/
structure AlertBatch where
  alertType : AlertType
  start : Nat
  alerts : List Alert

/-- The alert that a batch brings for an ordinal of a kind. -/
def AlertBatch.alert? (batch : AlertBatch) (alertType : AlertType) (ordinal : Nat) :
    Option Alert :=
  if batch.alertType = alertType ∧ batch.start ≤ ordinal then
    batch.alerts[ordinal - batch.start]?
  else none

namespace AlertShelf

variable {shelf : AlertShelf}

/-- Whether the tables of a shelf say what its alerts point at. -/
structure Indexed (shelf : AlertShelf) : Prop where
  executions : ∀ ordinal : Nat, shelf.executionIndices[ordinal]? =
    (shelf.alerts[ordinal]?).bind Alert.executionIndex?
  graphExecutions : ∀ ordinal : Nat, shelf.graphExecutionIndices[ordinal]? =
    (shelf.alerts[ordinal]?).bind Alert.graphExecutionIndex?

theorem indexed_empty : ({} : AlertShelf).Indexed := ⟨fun _ => by simp, fun _ => by simp⟩

theorem getElem?_alerts_put (shelf : AlertShelf) (place : Nat) (alert : Alert) (ordinal : Nat) :
    (shelf.put place alert).alerts[ordinal]? =
      (shelf.alerts[ordinal]?).or (if place = ordinal then some alert else none) := by
  rw [put]
  split_ifs with hheld hsame hsame
  · subst hsame
    obtain ⟨first, hfirst⟩ := Option.isSome_iff_exists.mp
      (Std.ExtTreeMap.mem_iff_isSome_getElem?.mp hheld)
    rw [hfirst, Option.some_or]
  · rw [Option.or_none]
  · subst hsame
    dsimp only
    rw [Std.ExtTreeMap.getElem?_insert_self, Std.ExtTreeMap.getElem?_eq_none hheld, Option.none_or]
  · dsimp only
    rw [Std.ExtTreeMap.getElem?_insert, if_neg (by simpa using hsame), Option.or_none]

/-- An alert of a batch is held unless one of its ordinal is held already. -/
theorem getElem?_alerts_putAll (shelf : AlertShelf) (batch : AlertBatch) (ordinal : Nat) :
    (shelf.putAll batch.start batch.alerts).alerts[ordinal]? =
      (shelf.alerts[ordinal]?).or (batch.alert? batch.alertType ordinal) := by
  obtain ⟨alertType, start, alerts⟩ := batch
  simp only [AlertBatch.alert?, true_and]
  induction alerts generalizing shelf start with
  | nil => simp [putAll]
  | cons alert rest ih =>
      rw [putAll, ih, getElem?_alerts_put, Option.or_assoc]
      congr 1
      rcases Nat.lt_trichotomy ordinal start with hlt | rfl | hgt
      · rw [if_neg (by omega), if_neg (by omega), if_neg (by omega)]
        rfl
      · rw [if_pos rfl, if_pos (Nat.le_refl _), Nat.sub_self]
        rfl
      · have hoffset : ordinal - start = (ordinal - (start + 1)) + 1 := by omega
        rw [if_neg (by omega), if_pos (by omega), if_pos (by omega), hoffset,
          List.getElem?_cons_succ, Option.none_or]

theorem getElem?_enter (indices : Std.ExtTreeMap Nat Nat) (place : Nat) (index? : Option Nat)
    (ordinal : Nat) :
    (enter indices place index?)[ordinal]? =
      if place = ordinal then index?.or indices[ordinal]? else indices[ordinal]? := by
  cases index? with
  | none => simp [enter]
  | some index => simp [enter, Std.ExtTreeMap.getElem?_insert]

/-- The tables are entered with the alert, or not at all. -/
theorem indexed_put (hindexed : shelf.Indexed) (place : Nat) (alert : Alert) :
    (shelf.put place alert).Indexed := by
  rw [put]
  split_ifs with hheld
  · exact hindexed
  · have hnone : shelf.alerts[place]? = none := Std.ExtTreeMap.getElem?_eq_none hheld
    constructor <;> intro ordinal <;> dsimp only <;>
      rw [getElem?_enter, Std.ExtTreeMap.getElem?_insert] <;>
      by_cases hsame : place = ordinal
    · subst hsame
      rw [hindexed.executions, hnone]
      simp
    · simp [hsame, hindexed.executions]
    · subst hsame
      rw [hindexed.graphExecutions, hnone]
      simp
    · simp [hsame, hindexed.graphExecutions]

theorem indexed_putAll (hindexed : shelf.Indexed) (start : Nat) (alerts : List Alert) :
    (shelf.putAll start alerts).Indexed := by
  induction alerts generalizing shelf start with
  | nil => exact hindexed
  | cons alert rest ih => exact ih (indexed_put hindexed start alert) (start + 1)

end AlertShelf

/-! ## Boards -/

namespace AlertBoard

variable {board after : AlertBoard} {alertType : AlertType}

/-- The alert that is held for an ordinal of a kind. -/
def alert? (board : AlertBoard) (alertType : AlertType) (ordinal : Nat) : Option Alert :=
  (board.shelves[alertType]?).bind fun shelf => shelf.alerts[ordinal]?

/-- Whether an alert is held for an ordinal of a kind that points at an execution. -/
def Targets (board : AlertBoard) (alertType : AlertType) (ordinal index : Nat) : Prop :=
  ∃ alert, board.alert? alertType ordinal = some alert ∧ alert.PointsAt index

/-- Whether an alert is held for an ordinal of a kind that points at an execution inside a graph. -/
def TargetsGraph (board : AlertBoard) (alertType : AlertType) (ordinal index : Nat) : Prop :=
  ∃ alert, board.alert? alertType ordinal = some alert ∧ alert.PointsIntoGraphAt index

/-- The shelves after a batch was put on the one of its kind. -/
def shelvesWith (board : AlertBoard) (batch : AlertBatch) :
    Std.ExtTreeMap AlertType AlertShelf :=
  board.shelves.insert batch.alertType
    ((board.shelves[batch.alertType]?.getD {}).putAll batch.start batch.alerts)

/-- Whether the tables of every shelf say what its alerts point at. -/
def Indexed (board : AlertBoard) : Prop :=
  ∀ (alertType : AlertType) (shelf : AlertShelf), board.shelves[alertType]? = some shelf →
    shelf.Indexed

theorem indexed_of_shelves_eq (hindexed : board.Indexed) (hsame : after.shelves = board.shelves) :
    after.Indexed := by
  rw [Indexed, hsame]
  exact hindexed

theorem indexed_shelvesWith (hindexed : board.Indexed) {batch : AlertBatch}
    (hafter : after.shelves = board.shelvesWith batch) : after.Indexed := by
  have hold : (board.shelves[batch.alertType]?.getD {}).Indexed := by
    cases hshelf : board.shelves[batch.alertType]? with
    | none => exact AlertShelf.indexed_empty
    | some shelf => exact hindexed batch.alertType shelf hshelf
  rw [Indexed, hafter, shelvesWith]
  intro alertType shelf hshelf
  rw [Std.ExtTreeMap.getElem?_insert] at hshelf
  split_ifs at hshelf
  · cases hshelf
    exact AlertShelf.indexed_putAll hold batch.start batch.alerts
  · exact hindexed alertType shelf hshelf

theorem alert?_shelvesWith {batch : AlertBatch} (hafter : after.shelves = board.shelvesWith batch)
    (alertType : AlertType) (ordinal : Nat) :
    after.alert? alertType ordinal =
      (board.alert? alertType ordinal).or (batch.alert? alertType ordinal) := by
  rw [alert?, hafter, shelvesWith, Std.ExtTreeMap.getElem?_insert]
  by_cases hkind : batch.alertType = alertType
  · subst hkind
    rw [if_pos (Std.LawfulEqOrd.compare_eq_iff_eq.mpr rfl), Option.bind_some,
      AlertShelf.getElem?_alerts_putAll, alert?]
    cases board.shelves[batch.alertType]? <;> simp
  · rw [if_neg (fun heq => hkind (Std.LawfulEqOrd.compare_eq_iff_eq.mp heq)),
      AlertBatch.alert?, if_neg fun hboth => hkind hboth.1, Option.or_none]
    rfl

/-! ### Views -/

/-- What is read off a board agrees with the records of the alerts that it holds. -/
structure Agrees (board : AlertBoard) : Prop where
  /-- The table of a kind has an entry for each alert held that points at an execution, and no
  other. -/
  executions : ∀ (alertType : AlertType) (shelf : AlertShelf) (ordinal index : Nat),
    board.shelves[alertType]? = some shelf →
      (shelf.executionIndices[ordinal]? = some index ↔ board.Targets alertType ordinal index)
  graphExecutions : ∀ (alertType : AlertType) (shelf : AlertShelf) (ordinal index : Nat),
    board.shelves[alertType]? = some shelf →
      (shelf.graphExecutionIndices[ordinal]? = some index ↔
        board.TargetsGraph alertType ordinal index)
  /-- The first execution of a kind is that of the least ordinal which has one. -/
  first : ∀ (alertType : AlertType) (index : Nat),
    board.firstExecutionIndex alertType = some index ↔
      ∃ ordinal, board.Targets alertType ordinal index ∧
        ∀ earlier < ordinal, ∀ other, ¬ board.Targets alertType earlier other
  length_focusTypes : ∀ range, (board.focusTypesFor range).length = range.length
  /-- An execution has the highlighted kind if an alert of that kind points at it. -/
  focusTypes : ∀ (range : Interval) (offset : Nat) (alertType : AlertType), offset < range.length →
    ((board.focusTypesFor range)[offset]? = some (some alertType) ↔
      board.focusType = some alertType ∧
        ∃ ordinal, board.Targets alertType ordinal (range.start + offset))

theorem targets_iff_of_shelf {shelf : AlertShelf}
    (hshelf : board.shelves[alertType]? = some shelf) (hindexed : shelf.Indexed)
    (ordinal index : Nat) :
    shelf.executionIndices[ordinal]? = some index ↔ board.Targets alertType ordinal index := by
  rw [hindexed.executions, Option.bind_eq_some_iff, Targets, alert?, hshelf, Option.bind_some]
  simp only [Alert.executionIndex?_eq_some_iff]

theorem targetsGraph_iff_of_shelf {shelf : AlertShelf}
    (hshelf : board.shelves[alertType]? = some shelf) (hindexed : shelf.Indexed)
    (ordinal index : Nat) :
    shelf.graphExecutionIndices[ordinal]? = some index ↔
      board.TargetsGraph alertType ordinal index := by
  rw [hindexed.graphExecutions, Option.bind_eq_some_iff, TargetsGraph, alert?, hshelf,
    Option.bind_some]
  simp only [Alert.graphExecutionIndex?_eq_some_iff]

theorem not_targets_of_none (hnone : board.shelves[alertType]? = none) (ordinal index : Nat) :
    ¬ board.Targets alertType ordinal index := by
  rintro ⟨alert, halert, _⟩
  rw [alert?, hnone, Option.bind_none] at halert
  cases halert

theorem mem_executionIndices_iff (hindexed : board.Indexed) {index : Nat} :
    index ∈ board.executionIndices alertType ↔
      ∃ ordinal, board.Targets alertType ordinal index := by
  rw [executionIndices]
  cases hshelf : board.shelves[alertType]? with
  | none => simp [not_targets_of_none hshelf]
  | some shelf =>
      rw [Option.map_some, Option.getD_some, mem_map_snd_toList_iff]
      simp only [targets_iff_of_shelf hshelf (hindexed alertType shelf hshelf)]

theorem firstExecutionIndex_eq_some_iff (hindexed : board.Indexed) {index : Nat} :
    board.firstExecutionIndex alertType = some index ↔
      ∃ ordinal, board.Targets alertType ordinal index ∧
        ∀ earlier < ordinal, ∀ other, ¬ board.Targets alertType earlier other := by
  rw [firstExecutionIndex]
  cases hshelf : board.shelves[alertType]? with
  | none => simp [not_targets_of_none hshelf]
  | some shelf =>
      rw [Option.bind_some, map_snd_head?_toList_eq_some_iff]
      simp only [Option.eq_none_iff_forall_ne_some, ne_eq,
        targets_iff_of_shelf hshelf (hindexed alertType shelf hshelf)]

theorem getElem?_focusTypesFor (board : AlertBoard) {range : Interval} {offset : Nat}
    (hoffset : offset < range.length) :
    (board.focusTypesFor range)[offset]? = some (board.focusType.filter fun alertType =>
      range.start + offset ∈ board.executionIndices alertType) := by
  rw [focusTypesFor, List.getElem?_map, Interval.indices, List.getElem?_range' hoffset,
    Nat.one_mul, Option.map_some]

theorem agrees_of_indexed (hindexed : board.Indexed) : board.Agrees where
  executions := fun alertType shelf ordinal index hshelf =>
    targets_iff_of_shelf hshelf (hindexed alertType shelf hshelf) ordinal index
  graphExecutions := fun alertType shelf ordinal index hshelf =>
    targetsGraph_iff_of_shelf hshelf (hindexed alertType shelf hshelf) ordinal index
  first := fun _ _ => firstExecutionIndex_eq_some_iff hindexed
  length_focusTypes := by
    intro range
    rw [focusTypesFor, List.length_map, Interval.indices, List.length_range']
  focusTypes := by
    intro range offset alertType hoffset
    rw [board.getElem?_focusTypesFor hoffset, Option.some.injEq, Option.filter_eq_some_iff,
      decide_eq_true_eq, mem_executionIndices_iff hindexed]

end AlertBoard

/-! ## Scopes -/

/-- The batch of alerts that a reply brings, if it fills its range. -/
def Reply.alertBatch? : Reply → Option AlertBatch
  | .alertsOfType alertType range _ alerts =>
    if range.start ≤ range.stop ∧ alerts.length = range.length then
      some ⟨alertType, range.start, alerts⟩
    else none
  | _ => none

theorem AlertBoard.checkBatch_eq_ok_iff {range : Interval} {alerts : List Alert} :
    AlertBoard.checkBatch range alerts = .ok () ↔
      range.start ≤ range.stop ∧ alerts.length = range.length := by
  rw [checkBatch]
  split_ifs with hmisfit
  · simp only [false_iff]
    omega
  · simp only [true_iff]
    omega

namespace RunScope

variable {scope : RunScope} {run : RunId}

theorem shelves_toggleAlerts (scope : RunScope) (run : RunId) (alertType : AlertType) :
    (scope.toggleAlerts run alertType).1.alerts.shelves = scope.alerts.shelves := by
  refine toggleAlerts_induct (motive := fun after _ => after.alerts.shelves = scope.alerts.shelves)
    alertType rfl (fun _ => rfl) fun moved _ hmoved => ?_
  exact (moved.quiet_requestAlerts run alertType).data.shelves_eq.trans hmoved

theorem shelves_operate (scope : RunScope) (run : RunId) (operation : Operation) :
    (scope.operate run operation).1.alerts.shelves = scope.alerts.shelves := by
  cases operation with
  | scroll kind step => cases kind <;> rfl
  | focusByOffset kind offset => exact (scope.quiet_focusByOffset kind offset).data.shelves_eq
  | toggleAlerts alertType => exact scope.shelves_toggleAlerts run alertType
  | requestFile file => exact (scope.quiet_requestFile run file).data.shelves_eq
  | refresh | focusOp | requestOp => rfl

/-- The alerts are held even when the window cannot go to the first of them. -/
theorem shelves_onAlerts (scope : RunScope) (run : RunId) (now : Nat) (alertType : AlertType)
    (range : Interval) (tally : AlertTally) (alerts : List Alert) :
    (scope.onAlerts run alertType range tally alerts now).1.alerts.shelves =
      (Reply.alertBatch? (.alertsOfType alertType range tally alerts)).elim scope.alerts.shelves
        scope.alerts.shelvesWith := by
  rw [onAlerts, Reply.alertBatch?]
  rcases hcheck : AlertBoard.checkBatch range alerts with error | _
  · rw [if_neg fun hboth => ?_]
    · rfl
    · rw [AlertBoard.checkBatch_eq_ok_iff.mpr hboth] at hcheck
      cases hcheck
  · rw [if_pos (AlertBoard.checkBatch_eq_ok_iff.mp hcheck)]
    dsimp only
    cases AlertBoard.jumpOf range alerts with
    | none => rfl
    | some target => exact congrArg AlertBoard.shelves (alerts_jump _ run target)

/-- A reply leaves the shelves, or it puts a batch on one of them. -/
theorem shelves_onReply (scope : RunScope) (run : RunId) (now : Nat) (reply : Reply) :
    (scope.onReply run now reply).1.alerts.shelves =
      reply.alertBatch?.elim scope.alerts.shelves scope.alerts.shelvesWith := by
  cases reply with
  | alertsOfType alertType range tally alerts => exact scope.shelves_onAlerts ..
  | numExecutions total =>
      exact numExecutions_induct
        (motive := fun after _ => after.alerts.shelves = scope.alerts.shelves) now total rfl
        fun before _ hbefore => (before.quiet_focusFirst total).data.shelves_eq.trans hbefore
  | numAlertsAndBreakdown tally =>
      exact (scope.quiet_tally run now tally).data.shelves_eq
  | sourceFile file lines =>
      rw [onReply]
      cases scope.sources.onFileLoaded file lines <;> rfl
  | _ => rfl

theorem shelves_settle (scope : RunScope) (run : RunId) (sticky : Bool) :
    (scope.settle run sticky).1.alerts.shelves = scope.alerts.shelves :=
  (scope.quiet_settle run sticky).data.shelves_eq

end RunScope

/-! ## Sessions -/

namespace Session

variable {session : Session}

/-- The batch of alerts that a session takes up because of an event. -/
def alertBatch? (session : Session) : Event → Option AlertBatch
  | .loaded run reply => if session.activeRun = some run then reply.alertBatch? else none
  | _ => none

/-- The alert that the first batch with an ordinal brings, among those that are taken up one after
another. -/
def firstAlert? (session : Session) (alertType : AlertType) (ordinal : Nat) :
    List (Event × Nat) → Option Alert
  | [] => none
  | step :: rest =>
    ((session.alertBatch? step.1).bind fun batch => batch.alert? alertType ordinal).or
      ((session.apply step.1 step.2).1.firstAlert? alertType ordinal rest)

theorem shelves_settle (session : Session) :
    session.settle.1.scope.alerts.shelves = session.scope.alerts.shelves := by
  rcases Option.eq_none_or_eq_some session.activeRun with hactive | ⟨run, hactive⟩
  · rw [settle_of_none hactive]
  · rw [settle_of_some hactive]
    exact session.scope.shelves_settle run session.stickyFocus

/-- A response to anything but a reply leaves the shelves. -/
theorem shelves_responds {active : Option RunId} {event : Event} {before after : RunScope}
    {queue : List PendingFetch} (hresponds : RunScope.Responds active event before after queue)
    (hother : ∀ run reply, event ≠ .loaded run reply) :
    after.alerts.shelves = before.alerts.shelves := by
  cases hresponds with
  | rest | click => rfl
  | operate run _ _ operation => exact before.shelves_operate run operation
  | reply run _ reply => exact absurd rfl (hother run reply)
  | fail run request => exact (before.keeps_onFetchFailed request).shelves_eq

/-- What an event does to the shelves of the scope that takes it up. -/
theorem shelves_reduce (session : Session) (event : Event) (now : Nat) :
    (session.reduce now event).1.scope.alerts.shelves =
      (session.alertBatch? event).elim (session.scopeFor event).alerts.shelves
        (session.scopeFor event).alerts.shelvesWith := by
  -- `Responds` does not say which batch a reply brings, so replies are looked at themselves
  by_cases hreply : ∃ run reply, event = .loaded run reply
  · obtain ⟨run, reply, rfl⟩ := hreply
    have hscope : session.scopeFor (.loaded run reply) = session.scope := scopeFor_of_stays rfl
    rw [hscope, alertBatch?]
    by_cases hactive : session.activeRun = some run
    · rw [if_pos hactive, (reduce_loaded hactive reply now).1]
      exact session.scope.shelves_onReply run now reply
    · rw [if_neg hactive, reduce_loaded_inactive hactive]
      rfl
  · have hother : ∀ run reply, event ≠ .loaded run reply :=
      fun run reply heq => hreply ⟨run, reply, heq⟩
    have hnone : session.alertBatch? event = none := by
      cases event with
      | loaded run reply => exact absurd rfl (hother run reply)
      | _ => rfl
    rw [hnone]
    exact shelves_responds (session.responds_reduce event now) hother

theorem shelves_apply (session : Session) (event : Event) (now : Nat) :
    (session.apply event now).1.scope.alerts.shelves =
      (session.alertBatch? event).elim (session.scopeFor event).alerts.shelves
        (session.scopeFor event).alerts.shelvesWith := by
  rw [← session.shelves_reduce event now]
  exact apply_induct
    (motive := fun after _ =>
      after.scope.alerts.shelves = (session.reduce now event).1.scope.alerts.shelves)
    rfl (shelves_settle _)

theorem indexed_apply (hindexed : session.scope.alerts.Indexed) (event : Event) (now : Nat) :
    (session.apply event now).1.scope.alerts.Indexed := by
  have hstart : (session.scopeFor event).alerts.Indexed := by
    rw [scopeFor]
    split_ifs
    · intro alertType shelf hshelf
      simp [RunScope.fresh] at hshelf
    · exact hindexed
  have hshelves := session.shelves_apply event now
  cases hbatch : session.alertBatch? event with
  | none =>
      rw [hbatch] at hshelves
      exact AlertBoard.indexed_of_shelves_eq hstart hshelves
  | some batch =>
      rw [hbatch] at hshelves
      exact AlertBoard.indexed_shelvesWith hstart hshelves

theorem alert?_apply {event : Event} (hstays : session.selects event = false) (now : Nat)
    (alertType : AlertType) (ordinal : Nat) :
    (session.apply event now).1.scope.alerts.alert? alertType ordinal =
      (session.scope.alerts.alert? alertType ordinal).or
        ((session.alertBatch? event).bind fun batch => batch.alert? alertType ordinal) := by
  have hshelves := session.shelves_apply event now
  rw [scopeFor_of_stays hstays] at hshelves
  cases hbatch : session.alertBatch? event with
  | none =>
      rw [hbatch] at hshelves
      rw [AlertBoard.alert?, hshelves, Option.bind_none, Option.or_none]
      rfl
  | some batch =>
      rw [hbatch] at hshelves
      exact AlertBoard.alert?_shelvesWith hshelves alertType ordinal

/-- While a selection lasts, what is held for an ordinal is what was held before, or else what the
first batch with the ordinal brings. -/
theorem alert?_applyAll {steps : List (Event × Nat)} (hstays : session.staysAlong steps = true)
    (alertType : AlertType) (ordinal : Nat) :
    (session.applyAll steps).scope.alerts.alert? alertType ordinal =
      (session.scope.alerts.alert? alertType ordinal).or
        (session.firstAlert? alertType ordinal steps) := by
  induction steps generalizing session with
  | nil => rw [firstAlert?, Option.or_none]; rfl
  | cons step rest ih =>
      rw [staysAlong, Bool.and_eq_true, Bool.not_eq_true'] at hstays
      rw [firstAlert?, ← Option.or_assoc, ← alert?_apply hstays.1 step.2]
      exact ih hstays.2

/-- Whatever batches arrive while a selection lasts, the first alert for an ordinal stays, and what
is read off the board agrees with the alerts that it holds. -/
theorem alerts_recorded (config : Config) (valid : config.Valid)
    (history steps : List (Event × Nat))
    (hstays : ((fresh config valid).applyAll history).staysAlong steps = true) :
    let before := (fresh config valid).applyAll history
    let after := before.applyAll steps
    (∀ alertType ordinal, after.scope.alerts.alert? alertType ordinal =
      (before.scope.alerts.alert? alertType ordinal).or
        (before.firstAlert? alertType ordinal steps)) ∧
    (∀ alertType ordinal alert, before.scope.alerts.alert? alertType ordinal = some alert →
      after.scope.alerts.alert? alertType ordinal = some alert) ∧
    after.scope.alerts.Agrees := by
  intro before after
  have hrecorded := fun alertType ordinal => alert?_applyAll hstays alertType ordinal
  refine ⟨hrecorded, fun alertType ordinal alert hheld => ?_, ?_⟩
  · rw [hrecorded, hheld, Option.some_or]
  · -- the tables are in order from the first selection on, so also across `history`
    have hindexed : ∀ (session : Session) (event : Event) (now : Nat),
        session.scope.alerts.Indexed → (session.apply event now).1.scope.alerts.Indexed :=
      fun session event now hindexed => indexed_apply hindexed event now
    have hfresh : (fresh config valid).scope.alerts.Indexed := by
      intro alertType shelf hshelf
      simp [fresh, RunScope.fresh] at hshelf
    exact AlertBoard.agrees_of_indexed (applyAll_preserves hindexed
      (applyAll_preserves hindexed hfresh history) steps)

/-- A batch of alerts of infinite values for a run `a`. -/
def infNanBatch (range : Interval) (alerts : List Alert) : Event :=
  .loaded "a" (.alertsOfType .infNan range {} alerts)

/-- Two alerts arrive after the second of them did, and after one that was first for its ordinal.
Then their kind is highlighted. -/
def overlapping : List (Event × Nat) :=
  [(infNanBatch ⟨0, 1⟩ [Sample.infNanAlert 10 (some 3)], 1),
    (infNanBatch ⟨2, 3⟩ [Sample.infNanAlert 30 none], 2),
    (infNanBatch ⟨0, 3⟩ [Sample.infNanAlert 99 none, Sample.infNanAlert 20 none,
      Sample.infNanAlert 98 (some 4)], 3),
    (.alertTypeFocusToggled .infNan, 4)]

/-- The first and the third alert stay as they were, and only the second is new.  The tables and the
highlighted executions are those of the alerts that stayed, and not those of the last batch. -/
theorem alerts_recorded_overlapping :
    let before := (fresh {} (by decide)).applyAll [(.activeRunChanged (some "a"), 0)]
    let board := (before.applyAll overlapping).scope.alerts
    before.staysAlong overlapping = true ∧
      board.alert? .infNan 0 = some (Sample.infNanAlert 10 (some 3)) ∧
      board.alert? .infNan 1 = some (Sample.infNanAlert 20 none) ∧
      board.alert? .infNan 2 = some (Sample.infNanAlert 30 none) ∧
      (board.shelves[AlertType.infNan]?).bind (·.executionIndices[0]?) = some 10 ∧
      (board.shelves[AlertType.infNan]?).bind (·.executionIndices[2]?) = some 30 ∧
      (board.shelves[AlertType.infNan]?).bind (·.graphExecutionIndices[0]?) = some 3 ∧
      (board.shelves[AlertType.infNan]?).bind (·.graphExecutionIndices[2]?) = none ∧
      board.firstExecutionIndex .infNan = some 10 ∧
      board.focusTypesFor ⟨19, 21⟩ = [none, some .infNan] ∧ board.Agrees := by
  have hstays : ((fresh {} (by decide)).applyAll [(.activeRunChanged (some "a"), 0)]).staysAlong
      overlapping = true := by decide +kernel
  have hrecorded := alerts_recorded {} (by decide) [(.activeRunChanged (some "a"), 0)]
    overlapping hstays
  dsimp only at hrecorded ⊢
  obtain ⟨hrecorded, _, hagrees⟩ := hrecorded
  refine ⟨hstays, ?_, ?_, ?_, ?_, ?_, ?_, ?_, ?_, ?_, hagrees⟩
  -- what is held is what the theorem says of the batches, and the rest is read off the board
  · rw [hrecorded]
    decide +kernel
  · rw [hrecorded]
    decide +kernel
  · rw [hrecorded]
    decide +kernel
  all_goals decide +kernel

end Session

end TraceViewer
