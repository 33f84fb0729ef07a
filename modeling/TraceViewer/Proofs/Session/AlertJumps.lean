import TraceViewer.Proofs.Session.AlertRecords
import TraceViewer.Proofs.Session.Tending

/-!
# Where alerts take the window

A batch that starts with the first alert of its kind takes the window to what that alert points at.
Nothing else about the batch matters, and in particular not whether its alerts are held already: a
batch that comes again is not recorded again (`alert?_redelivered`), but it moves the window and the
focus like the first one.  It moves nothing exactly when they are where it takes them, and the pages
of the window were asked for (`RunScope.onAlerts_windows`).
-/

namespace TraceViewer

namespace PagedView

variable {α : Type} {view : PagedView α}

/-- A window is satisfied when nothing is lacking for it. -/
theorem satisfied_of_demand_empty (hacc : view.sequence.Accounted) (hfits : view.Fits)
    {after : PagedView α} {demand : PageDemand}
    (hresolve : view.resolveWindow = (after, .ok demand)) (hempty : demand.pages = []) :
    view.Satisfied := by
  obtain ⟨other, hspec, hlacks, _⟩ := view.resolveWindow_spec hacc hfits
  rw [hresolve] at hspec
  cases hspec
  have hnothing : demand = {} := by
    have hranges := hlacks.ranges_eq
    rw [hempty] at hranges
    cases demand
    simp_all
  rw [Satisfied, hresolve, hnothing]
  rfl

end PagedView

namespace Timeline

variable {α : Type} {timeline : Timeline α} {limit : Nat}

theorem pageless_asking_iff {view : PagedView α} {demand : PageDemand}
    (hasks : timeline.view.Asks view demand) (run : RunId) :
    Pageless (timeline.asking run view demand).2.queue ↔ demand.pages = [] := by
  constructor
  · intro hpageless
    by_contra hsome
    obtain ⟨page, hpage⟩ := List.exists_mem_of_ne_nil _ hsome
    have hexists := hasks.lacks.lt_numItems page hpage
    obtain ⟨range, hrange, _⟩ := (hasks.mem_ranges (page * timeline.view.sequence.pageSize)).mpr
      ⟨by rwa [Page.ofIndex_mul timeline.view.sequence.pageSize_pos], hexists⟩
    exact hpageless run timeline.kind range
      ((mem_queue_asking hasks run _).mpr ⟨range, hrange, rfl⟩)
  · intro hnone run' kind range hmem
    obtain ⟨other, hother, _⟩ := (mem_queue_asking hasks run _).mp hmem
    rw [hasks.lacks.ranges_eq, hnone] at hother
    simp at hother

/-- Putting an index in the middle asks for pages unless they were asked for. -/
theorem scroll_recenter (hsound : timeline.Sound limit) (run : RunId) (index : Nat) :
    ∃ after command, timeline.scroll run (.recenter index) = (after, .ok command) ∧
      after.view.window = timeline.view.window.recenter index ∧
      (Pageless command.queue ↔
        { timeline.view with window := timeline.view.window.recenter index }.Satisfied) := by
  let moved : PagedView α := { timeline.view with window := timeline.view.window.recenter index }
  have hfits : moved.Fits := hsound.fits
  obtain ⟨demand, hresolve, hlacks, _⟩ := moved.resolveWindow_spec hsound.accounted hfits
  let view : PagedView α := { moved with sequence := moved.sequence.markInFlight demand.pages }
  have hasks : timeline.view.Asks view demand := ⟨rfl, Nat.le_refl _, rfl, hlacks⟩
  have hmove : moveView timeline.view (.recenter index) = (view, .ok demand) := hresolve
  refine ⟨(timeline.asking run view demand).1, (timeline.asking run view demand).2, ?_, ?_, ?_⟩
  · rw [scroll, hmove]
    rfl
  · rw [asking_fst]
  · rw [pageless_asking_iff hasks]
    refine ⟨fun hnone => moved.satisfied_of_demand_empty hsound.accounted hfits hresolve hnone, ?_⟩
    intro hsatisfied
    have hsame : (.ok demand : Except ViewError PageDemand) = .ok {} :=
      congrArg Prod.snd (hresolve.symm.trans hsatisfied)
    exact congrArg PageDemand.pages (Except.ok.inj hsame)

end Timeline

namespace AlertBoard

/-- Whether a batch takes the window to a target: it fills its range, it starts with the first alert
of its kind, and that alert points at the target. -/
structure TakesTo (range : Interval) (alerts : List Alert) (target : AlertJump) : Prop where
  ordered : range.start ≤ range.stop
  fills : alerts.length = range.length
  starts : range.start = 0
  points : ∃ first rest, alerts = first :: rest ∧ first.PointsAt target.executionIndex ∧
    ∀ index, target.graphExecutionIndex = some index ↔ first.PointsIntoGraphAt index

theorem takesTo_iff {range : Interval} {alerts : List Alert} {target : AlertJump} :
    TakesTo range alerts target ↔
      checkBatch range alerts = .ok () ∧ jumpOf range alerts = some target := by
  rw [checkBatch_eq_ok_iff, jumpOf]
  constructor
  · rintro ⟨hordered, hfills, hstarts, first, rest, rfl, hpoints, hgraph⟩
    have hsame : first.graphExecutionIndex? = target.graphExecutionIndex :=
      Option.ext fun index => Alert.graphExecutionIndex?_eq_some_iff.trans (hgraph index).symm
    refine ⟨⟨hordered, hfills⟩, ?_⟩
    rw [if_pos hstarts, List.head?_cons, Option.bind_some,
      Alert.executionIndex?_eq_some_iff.mpr hpoints, Option.map_some, hsame]
  · rintro ⟨⟨hordered, hfills⟩, hjump⟩
    split_ifs at hjump with hstarts
    obtain ⟨first, hfirst, hpoints⟩ := Option.bind_eq_some_iff.mp hjump
    obtain ⟨index, hindex, rfl⟩ := Option.map_eq_some_iff.mp hpoints
    obtain ⟨rest, rfl⟩ := List.head?_eq_some_iff.mp hfirst
    exact ⟨hordered, hfills, hstarts, first, rest, rfl,
      Alert.executionIndex?_eq_some_iff.mp hindex, fun _ => Alert.graphExecutionIndex?_eq_some_iff⟩

end AlertBoard

namespace RunScope

variable {scope : RunScope}

/-- The windows after they went where an alert points. -/
def windowsAt (scope : RunScope) (target : AlertJump) : SequenceKind → ScrollWindow
  | .executions => (scope.window .executions).recenter target.executionIndex
  | .graphExecutions =>
    let window := scope.window .graphExecutions
    window.setFocus (target.graphExecutionIndex.or window.focus)

/-- What a jump does to the windows, and when it asks for pages. -/
theorem jump_spec {limit : Nat} (hsound : scope.executions.digests.Sound limit) (run : RunId)
    (target : AlertJump) :
    ∃ moved command, scope.jump run target = (moved, .ok command) ∧
      moved.window = scope.windowsAt target ∧
      (Pageless command.queue ↔ PagedView.Satisfied
        { scope.executions.digests.view with
          window := (scope.window .executions).recenter target.executionIndex }) := by
  obtain ⟨digests, command, hscroll, hwindow, hpageless⟩ :=
    Timeline.scroll_recenter hsound run target.executionIndex
  have hmoved : scope.scroll run .executions (.recenter target.executionIndex) =
      (scope.withDigests digests, .ok command) := by
    rw [scroll, hscroll]
  rw [jump, hmoved]
  dsimp only
  cases hgraph : target.graphExecutionIndex with
  | none =>
      refine ⟨_, _, rfl, ?_, hpageless⟩
      funext kind
      cases kind with
      | executions => exact hwindow
      | graphExecutions => rw [windowsAt, hgraph]; rfl
  | some index =>
      refine ⟨_, _, rfl, ?_, hpageless⟩
      funext kind
      cases kind with
      | executions => exact hwindow
      | graphExecutions => rw [windowsAt, hgraph]; rfl

/-- A jump changes no window and asks for no page exactly when the scope shows its target. -/
theorem shows_iff {target : AlertJump} :
    scope.Shows target ↔
      scope.windowsAt target = scope.window ∧
        PagedView.Satisfied
          { scope.executions.digests.view with
            window := (scope.window .executions).recenter target.executionIndex } := by
  constructor
  · rintro ⟨⟨hcentered, hsatisfied⟩, hfocused⟩
    have hexecutions : (scope.window .executions).recenter target.executionIndex =
        scope.window .executions := hcentered
    refine ⟨?_, ?_⟩
    · funext kind
      cases kind with
      | executions => exact hexecutions
      | graphExecutions =>
          rw [windowsAt]
          cases hgraph : target.graphExecutionIndex with
          | none => rfl
          | some index =>
              have hfocus : (scope.window .graphExecutions).focus = some index :=
                hfocused index hgraph
              rw [Option.some_or, ← hfocus]
              rfl
    · rw [hexecutions]
      exact hsatisfied
  · rintro ⟨hwindows, hsatisfied⟩
    have hexecutions : (scope.window .executions).recenter target.executionIndex =
        scope.window .executions := congrFun hwindows .executions
    rw [hexecutions] at hsatisfied
    refine ⟨⟨hexecutions, hsatisfied⟩, fun index hgraph => ?_⟩
    have hgraphs := congrArg ScrollWindow.focus (congrFun hwindows .graphExecutions)
    rw [windowsAt, hgraph] at hgraphs
    exact hgraphs.symm

/-- The windows do not depend on the alerts. -/
theorem window_withAlerts (scope : RunScope) (alerts : AlertBoard) :
    ({ scope with alerts } : RunScope).window = scope.window := by
  funext kind
  cases kind <;> rfl

/-- What a batch does to the windows, and when it asks for pages. -/
theorem onAlerts_windows {limit : Nat} (hsound : scope.executions.digests.Sound limit)
    (run : RunId) (alertType : AlertType) (range : Interval) (tally : AlertTally)
    (alerts : List Alert) (now : Nat) :
    let result := scope.onAlerts run alertType range tally alerts now
    (∀ target, AlertBoard.TakesTo range alerts target →
      result.1.window = scope.windowsAt target) ∧
    (result.1.window = scope.window ∧ Pageless (Command.queueOf result.2) ↔
      ∀ target, AlertBoard.TakesTo range alerts target → scope.Shows target) := by
  simp only [AlertBoard.takesTo_iff]
  rw [onAlerts]
  -- a batch that does not fill its range has no target, and neither has one that starts later
  rcases AlertBoard.checkBatch range alerts with error | _
  · simp only [reduceCtorEq, false_and, false_implies, implies_true, true_and, iff_true]
    exact ⟨scope.window_withAlerts _, pageless_nil⟩
  · simp only [true_and]
    cases AlertBoard.jumpOf range alerts with
    | none =>
        simp only [reduceCtorEq, false_implies, implies_true, true_and, iff_true]
        exact ⟨scope.window_withAlerts _, pageless_nil⟩
    | some target =>
        -- the merge touches only the alerts, so where the jump goes is said of the scope before it
        let merged := { scope with alerts := scope.alerts.merge alertType range tally alerts now }
        have hmerged : merged.executions.digests.Sound limit := hsound
        obtain ⟨moved, command, hjump, hwindow, hpageless⟩ := jump_spec hmerged run target
        dsimp only
        rw [show jump _ run target = _ from hjump]
        have hsame : merged.windowsAt target = scope.windowsAt target := rfl
        rw [hsame] at hwindow
        simp only [Option.some.injEq, forall_eq', hwindow, true_and]
        dsimp only [Command.queueOf]
        rw [hpageless]
        exact shows_iff.symm

/-- Settling moves no window. -/
theorem window_settle (scope : RunScope) (run : RunId) (sticky : Bool) :
    (scope.settle run sticky).1.window = scope.window := by
  obtain ⟨_, _, _, _, _, hsettled⟩ := scope.settle_eq run sticky
  rw [hsettled]
  funext kind
  cases kind <;> rfl

end RunScope

namespace Session

variable {session : Session} {run : RunId} {now : Nat} {alertType : AlertType} {range : Interval}
  {tally : AlertTally} {alerts : List Alert}

/-- Once a reply is taken up, no window is moved and no page is asked for any more. -/
theorem windows_conclude (session : Session) (run : RunId) (now : Nat)
    (taken : RunScope × Except ViewError (Command × Bool)) :
    let result := session.conclude run now taken
    result.1.scope.window = taken.1.window ∧
      (Pageless (Command.queueOf result.2) ↔
        Pageless (Command.queueOf (taken.2.map Prod.fst))) := by
  rcases taken with ⟨scope, error | ⟨command, grew⟩⟩
  · exact ⟨rfl, Iff.rfl⟩
  · have hsettle := (scope.quiet_settle run session.stickyFocus).calm.pageless
    refine ⟨scope.window_settle run session.stickyFocus, ?_⟩
    rw [conclude, Command.queueOf_combine_pair]
    refine ⟨fun hboth run' kind range hmem => ?_, fun hfirst => hfirst.append hsettle⟩
    exact hboth run' kind range (List.mem_append_left _ hmem)

/-- Alerts that are held already are not recorded again. -/
theorem alert?_redelivered (hactive : session.activeRun = some run)
    (hheld : ∀ ordinal ∈ range, (session.scope.alerts.alert? alertType ordinal).isSome = true)
    (kind : AlertType) (ordinal : Nat) :
    let result := session.apply (.loaded run (.alertsOfType alertType range tally alerts)) now
    result.1.scope.alerts.alert? kind ordinal = session.scope.alerts.alert? kind ordinal := by
  dsimp only
  rw [alert?_apply rfl, alertBatch?, if_pos hactive, Reply.alertBatch?]
  split_ifs with hfits
  · rw [Option.bind_some, AlertBatch.alert?]
    split_ifs with hnamed
    · obtain ⟨rfl, hstart⟩ := hnamed
      dsimp only at hstart ⊢
      -- an ordinal of the batch is held, and the first alert stays; behind the batch nothing is new
      by_cases hstop : ordinal < range.stop
      · obtain ⟨alert, halert⟩ := Option.isSome_iff_exists.mp (hheld ordinal ⟨hstart, hstop⟩)
        rw [halert, Option.some_or]
      · have hlength := hfits.2
        rw [Interval.length] at hlength
        rw [List.getElem?_eq_none (by omega), Option.or_none]
    · rw [Option.or_none]
  · rw [Option.bind_none, Option.or_none]

/-- Alerts that are held already change nothing on the board when they come again, but a batch that
starts with the first alert of its kind takes the window and the focus to what that alert points at,
as it did before.  Nothing is moved and no page is asked for exactly when they are there. -/
theorem redelivered_alerts_jump (config : Config) (valid : config.Valid)
    (history : List (Event × Nat)) (run : RunId) (alertType : AlertType) (range : Interval)
    (tally : AlertTally) (alerts : List Alert) (now : Nat)
    (hactive : ((fresh config valid).applyAll history).activeRun = some run)
    (hheld : ∀ ordinal ∈ range,
      (((fresh config valid).applyAll history).scope.alerts.alert? alertType ordinal).isSome =
        true) :
    let session := (fresh config valid).applyAll history
    let result := session.apply (.loaded run (.alertsOfType alertType range tally alerts)) now
    (∀ kind ordinal, result.1.scope.alerts.alert? kind ordinal =
      session.scope.alerts.alert? kind ordinal) ∧
    (∀ target, AlertBoard.TakesTo range alerts target →
      result.1.scope.window = session.scope.windowsAt target) ∧
    (result.1.scope.window = session.scope.window ∧ Pageless (Command.queueOf result.2) ↔
      ∀ target, AlertBoard.TakesTo range alerts target → session.scope.Shows target) := by
  intro session result
  obtain ⟨⟨limit, hsound⟩, _⟩ := regular_applyAll config valid history
  have hdigests : session.scope.executions.digests.Sound (limit .executions) := hsound.digests
  obtain ⟨hwindow, hpageless⟩ := session.windows_conclude run now
    (session.scope.onReply run now (.alertsOfType alertType range tally alerts))
  have hqueue : Command.queueOf ((session.scope.onReply run now
        (.alertsOfType alertType range tally alerts)).2.map Prod.fst) =
      Command.queueOf (session.scope.onAlerts run alertType range tally alerts now).2 := by
    rw [RunScope.onReply]
    rcases session.scope.onAlerts run alertType range tally alerts now with ⟨_, error | command⟩ <;>
      rfl
  -- settling moves no window and asks for no page, so the scope says what the session does
  rw [hqueue, ← apply_loaded hactive] at hpageless
  rw [← apply_loaded hactive] at hwindow
  refine ⟨alert?_redelivered hactive hheld, ?_⟩
  rw [show result.1.scope.window = _ from hwindow, show Pageless _ ↔ _ from hpageless]
  exact RunScope.onAlerts_windows hdigests run alertType range tally alerts now

/-- The first alert of a run with a hundred executions took the window to the tenth of them, which
could not be fetched, and the user went on to the fiftieth. -/
def scrolledAway : List (Event × Nat) :=
  [(.activeRunChanged (some "a"), 0),
    (.loaded "a" (.numExecutions 100), 1),
    (infNanBatch ⟨0, 1⟩ [Sample.infNanAlert 10 none], 2),
    (.fetchFailed "a" (.page .executions ⟨10, 20⟩), 3),
    (.scrollToIndex .executions 50, 4)]

/-- A narrow window over small pages. -/
def narrow : Config := { executions := { pageSize := 10, displayCount := 4 } }

theorem valid_narrow : narrow.Valid := by decide

/-- The alert that arrives again takes the window back. -/
theorem redelivered_alerts_jump_back :
    let session := (fresh narrow valid_narrow).applyAll scrolledAway
    let after := (session.apply (infNanBatch ⟨0, 1⟩ [Sample.infNanAlert 10 none]) 5).1
    session.activeRun = some "a" ∧
      session.scope.alerts.alert? .infNan 0 = some (Sample.infNanAlert 10 none) ∧
      after.scope.alerts.alert? .infNan 0 = some (Sample.infNanAlert 10 none) ∧
      (session.scope.window .executions).scrollBegin = 50 ∧
      (after.scope.window .executions).scrollBegin = 8 := by
  have hjump := redelivered_alerts_jump narrow valid_narrow scrolledAway "a" .infNan ⟨0, 1⟩ {}
    [Sample.infNanAlert 10 none] 5
  dsimp only at hjump ⊢
  have hactive : ((fresh narrow valid_narrow).applyAll scrolledAway).activeRun = some "a" := by
    decide +kernel
  have hfirst : ((fresh narrow valid_narrow).applyAll scrolledAway).scope.alerts.alert? .infNan 0 =
      some (Sample.infNanAlert 10 none) := by decide +kernel
  have hbegin : (((fresh narrow valid_narrow).applyAll scrolledAway).scope.window
      .executions).scrollBegin = 50 := by decide +kernel
  have hcount : (((fresh narrow valid_narrow).applyAll scrolledAway).scope.window
      .executions).displayCount = 4 := by decide +kernel
  generalize (fresh narrow valid_narrow).applyAll scrolledAway = session at *
  have hheld : ∀ ordinal ∈ (⟨0, 1⟩ : Interval),
      (session.scope.alerts.alert? .infNan ordinal).isSome = true := by
    rintro ordinal ⟨_, hlt⟩
    obtain rfl : ordinal = 0 := Nat.lt_one_iff.mp hlt
    rw [hfirst]
    rfl
  obtain ⟨hrecorded, hwindows, _⟩ := hjump hactive hheld
  have htarget : AlertBoard.TakesTo ⟨0, 1⟩ [Sample.infNanAlert 10 none] ⟨10, none⟩ :=
    AlertBoard.takesTo_iff.mpr ⟨rfl, rfl⟩
  have hwindow := congrFun (hwindows ⟨10, none⟩ htarget) .executions
  refine ⟨hactive, hfirst, (hrecorded .infNan 0).trans hfirst, hbegin, ?_⟩
  rw [infNanBatch, hwindow]
  change 10 - (session.scope.window .executions).displayCount / 2 = 8
  rw [hcount]

/-- A batch that arrives again does not always leave the windows and ask for no page. -/
theorem not_every_redelivery_rests :
    ¬ ∀ (config : Config) (valid : config.Valid) (history : List (Event × Nat)) (run : RunId)
      (alertType : AlertType) (range : Interval) (tally : AlertTally) (alerts : List Alert)
      (now : Nat),
      let session := (fresh config valid).applyAll history
      let result := session.apply (.loaded run (.alertsOfType alertType range tally alerts)) now
      session.activeRun = some run →
        (∀ ordinal ∈ range, (session.scope.alerts.alert? alertType ordinal).isSome = true) →
          result.1.scope.window = session.scope.window ∧
            Pageless (Command.queueOf result.2) := by
  intro hall
  have hrests := hall narrow valid_narrow scrolledAway "a" .infNan ⟨0, 1⟩ {}
    [Sample.infNanAlert 10 none] 5
  have hheld : ∀ ordinal ∈ (⟨0, 1⟩ : Interval), (((fresh narrow valid_narrow).applyAll
      scrolledAway).scope.alerts.alert? .infNan ordinal).isSome = true := by
    rintro ordinal ⟨_, hlt⟩
    obtain rfl : ordinal = 0 := Nat.lt_one_iff.mp hlt
    decide +kernel
  have hwindow := congrFun (hrests (by decide +kernel) hheld).1 .executions
  exact absurd hwindow (by decide +kernel)

end Session

end TraceViewer
