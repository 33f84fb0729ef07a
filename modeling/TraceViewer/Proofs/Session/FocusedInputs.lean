import TraceViewer.Proofs.Session.NearestInputs
import TraceViewer.Proofs.Session.StickyLine
import TraceViewer.Sample

/-!
# Whose inputs are traced

Within graphs a session has two focuses: an execution and an op.  The inputs that are traced are
those of the op, and they are traced back from the execution (`RunScope.inputIndices`).  So the
answer is about the focused execution only while the focused op is the one that it ran.

Each focus stays where an event last put it (`graphFocus_applyAll`).  Going to an execution that is
held puts both on it.  Any other event moves one of them at most: going to a slot that is empty, or
to what an alert points at, moves the execution alone, and naming an op moves the op alone.
-/

namespace TraceViewer

/-- The op that an execution inside a graph ran. -/
def GraphExecution.opKey (execution : GraphExecution) : GraphOpKey :=
  { graphId := execution.graphId, opName := execution.opName }

/-- What has the focus within graphs, or what an event gives the focus to. -/
structure GraphFocus where
  /-- The execution, by index. -/
  execution : Option Nat := none
  op : Option GraphOpKey := none
deriving Repr, DecidableEq

/-- What an event gives the focus to, and else what has it. -/
def GraphFocus.or (given focus : GraphFocus) : GraphFocus where
  execution := given.execution.or focus.execution
  op := given.op.or focus.op

namespace RunScope

variable {scope : RunScope} {run : RunId}

/-- What has the focus within graphs. -/
def graphFocus (scope : RunScope) : GraphFocus where
  execution := scope.graphExecutions.focus
  op := scope.ops.focused

/-- What an offset within the window gives the focus to. -/
def focusAtOffset (scope : RunScope) (offset : Nat) : GraphFocus :=
  let index := scope.graphExecutions.view.window.indexAt offset
  { execution := some index
    op := (scope.graphExecutions.items[index]?).map GraphExecution.opKey }

/-- What a reply gives the focus to. -/
def focusOfReply : Reply → GraphFocus
  | .alertsOfType _ range _ alerts =>
    match AlertBoard.checkBatch range alerts with
    | .error _ => {}
    | .ok () => { execution := (AlertBoard.jumpOf range alerts).bind (·.graphExecutionIndex) }
  | _ => {}

/-! ## The user -/

theorem graphFocus_scroll (scope : RunScope) (run : RunId) (kind : SequenceKind)
    (step : ScrollStep) : (scope.scroll run kind step).1.graphFocus = scope.graphFocus := by
  cases kind with
  | executions => rfl
  | graphExecutions =>
      have hfocus := (Timeline.effort_scroll scope.graphExecutions run step).1
      exact congrArg (GraphFocus.mk · scope.ops.focused) hfocus

theorem graphFocus_focusByOffset (scope : RunScope) (offset : Nat) :
    (scope.focusByOffset .graphExecutions offset).graphFocus =
      (scope.focusAtOffset offset).or scope.graphFocus := by
  rw [focusByOffset, focusAtOffset]
  cases scope.graphExecutions.items[scope.graphExecutions.view.window.indexAt offset]? <;> rfl

theorem graphFocus_toggleAlerts (scope : RunScope) (run : RunId) (alertType : AlertType) :
    (scope.toggleAlerts run alertType).1.graphFocus = scope.graphFocus :=
  toggleAlerts_induct (motive := fun after _ => after.graphFocus = scope.graphFocus) alertType
    rfl (fun _ => rfl) fun _ _ hmoved => hmoved

theorem graphFocus_requestFile (scope : RunScope) (run : RunId) (file : SourceFile) :
    (scope.requestFile run file).1.graphFocus = scope.graphFocus := by
  rw [requestFile]
  rcases scope.sources.requestFile file with error | _ <;> rfl

theorem graphFocus_requestOp (scope : RunScope) (run : RunId) (key : GraphOpKey) :
    (scope.requestOp run key).1.graphFocus = scope.graphFocus := by
  rw [requestOp, OpStore.request]
  split_ifs <;> rfl

/-! ## Outcomes -/

theorem graphFocus_onAlerts (hvalid : ∀ kind, (scope.geometry kind).Valid) (run : RunId)
    (now : Nat) (alertType : AlertType) (range : Interval) (tally : AlertTally)
    (alerts : List Alert) :
    (scope.onAlerts run alertType range tally alerts now).1.graphFocus =
      (focusOfReply (.alertsOfType alertType range tally alerts)).or scope.graphFocus := by
  rw [onAlerts, focusOfReply]
  rcases AlertBoard.checkBatch range alerts with error | _
  · rfl
  · dsimp only
    cases AlertBoard.jumpOf range alerts with
    | none => rfl
    | some target =>
        let merged := { scope with alerts := scope.alerts.merge alertType range tally alerts now }
        have hmerged : ∀ kind, (merged.geometry kind).Valid := hvalid
        have hfocus := merged.graphFocus_scroll run .executions (.recenter target.executionIndex)
        dsimp only
        rw [jump, Option.bind_some]
        rcases hscroll : merged.scroll run .executions (.recenter target.executionIndex) with
          ⟨moved, error | command⟩
        · -- a refused move would leave the focus behind
          exact absurd hscroll (recenter_accepted hmerged target.executionIndex)
        · rw [hscroll] at hfocus
          cases target.graphExecutionIndex with
          | none => exact hfocus
          | some index => exact congrArg (fun focus => GraphFocus.mk (some index) focus.op) hfocus

theorem graphFocus_onReply (hvalid : ∀ kind, (scope.geometry kind).Valid) (run : RunId)
    (now : Nat) (reply : Reply) :
    (scope.onReply run now reply).1.graphFocus = (focusOfReply reply).or scope.graphFocus := by
  cases reply with
  | alertsOfType alertType range tally alerts =>
      exact graphFocus_onAlerts hvalid run now alertType range tally alerts
  | numExecutions total =>
      -- the first execution gets the focus, which is another one
      refine numExecutions_induct
        (motive := fun after _ => after.graphFocus = scope.graphFocus) now total rfl ?_
      intro before _ hbefore
      rw [focusFirst]
      split_ifs <;> exact hbefore
  | numGraphExecutions total =>
      have hfocus := (Timeline.effort_onTotal scope.graphExecutions run total now).1
      exact congrArg (GraphFocus.mk · scope.ops.focused) hfocus
  | graphExecutions batch =>
      have hfocus := (Timeline.effort_onPage scope.graphExecutions run batch now).1
      exact congrArg (GraphFocus.mk · scope.ops.focused) hfocus
  | graphOpInfo op =>
      exact congrArg (GraphFocus.mk scope.graphExecutions.focus)
        (OpStore.focused_onLoaded scope.ops op)
  | sourceFile file lines =>
      rw [onReply]
      cases scope.sources.onFileLoaded file lines <;> rfl
  | numAlertsAndBreakdown tally =>
      change (requestFocusedAlerts _ run).1.graphFocus = scope.graphFocus
      rw [requestFocusedAlerts]
      split <;> rfl
  | executionDigests | executionData | stackFrames | sourceFileList => rfl

theorem graphFocus_onFetchFailed (scope : RunScope) (request : Request) :
    (scope.onFetchFailed request).graphFocus = scope.graphFocus := by
  cases request with
  | page kind range => cases kind <;> rfl
  | graphOpInfo key =>
      obtain ⟨phases, hfailed⟩ := scope.ops.updatePhase_eq key .failed
      rw [onFetchFailed, OpStore.onFailed, hfailed]
      rfl
  | _ => rfl

theorem graphFocus_settle (scope : RunScope) (run : RunId) (sticky : Bool) :
    (scope.settle run sticky).1.graphFocus = scope.graphFocus := by
  obtain ⟨_, _, _, _, _, hsettled⟩ := scope.settle_eq run sticky
  rw [hsettled]
  rfl

/-! ## Traced inputs -/

/-- Whether an op is held and reads what an execution within graphs computed. -/
def Reads (scope : RunScope) (key : GraphOpKey) (index : Nat) : Prop :=
  ∃ op execution input, scope.ops.op? key = some op ∧
    scope.graphExecutions.items[index]? = some execution ∧ input ∈ op.inputs ∧
      input.opName = execution.opName ∧ input.outputSlot = execution.outputSlot

/-- What an op reads has a name among the names of its inputs. -/
theorem Reads.mem_names {key : GraphOpKey} {index : Nat} (hreads : scope.Reads key index)
    {names : List String} {name : String}
    (hnames : (scope.ops.op? key).map (fun op => op.inputs.map OpInput.opName) = some names)
    (hname : (scope.graphExecutions.items[index]?).map GraphExecution.opName = some name) :
    name ∈ names := by
  obtain ⟨op, execution, input, hop, hitem, hinput, hsame, _⟩ := hreads
  rw [hop, Option.map_some, Option.some.injEq] at hnames
  rw [hitem, Option.map_some, Option.some.injEq] at hname
  rw [← hnames, ← hname, ← hsame]
  exact List.mem_map_of_mem hinput

/-- The inputs that are traced are those of the focused op. -/
theorem inputIndices_eq (scope : RunScope) (maxLookBack : Nat) :
    scope.inputIndices maxLookBack =
      InputTrace.indices scope.graphFocus.execution scope.graphExecutions.view.sequence
        ((scope.graphFocus.op.bind scope.ops.op?).map (·.inputs)) maxLookBack := rfl

theorem reads_of_inputIndices {maxLookBack : Nat} {found : List Nat} {focused : GraphExecution}
    (hanswer : scope.inputIndices maxLookBack = some found)
    (hfocused : scope.graphExecutions.view.focusedItem = some focused) :
    ∃ key, scope.graphFocus.op = some key ∧ ∀ index ∈ found, scope.Reads key index ∧
      ∃ execution, scope.graphExecutions.items[index]? = some execution ∧
        execution.graphId = focused.graphId := by
  obtain ⟨place, hplace, hheld⟩ := Option.bind_eq_some_iff.mp hfocused
  have hexecution : scope.graphFocus.execution = some place := hplace
  rw [inputIndices_eq, hexecution] at hanswer
  -- without a stored op there is no answer
  cases hop : scope.graphFocus.op.bind scope.ops.op? with
  | none =>
      rw [hop] at hanswer
      cases hanswer
  | some op =>
      obtain ⟨key, hkey, hstored⟩ := Option.bind_eq_some_iff.mp hop
      rw [hop, Option.map_some, InputTrace.indices_eq_hits hheld, Option.some.injEq] at hanswer
      refine ⟨key, hkey, fun index hindex => ?_⟩
      rw [← hanswer, List.mem_map] at hindex
      obtain ⟨⟨index, number⟩, hhit, rfl⟩ := hindex
      -- a hit is the nearest execution that computes one of the inputs
      obtain ⟨input, hinput, hnearest⟩ := InputTrace.mem_hits_backwards.mp hhit
      obtain ⟨_, execution, hitem, hcomputes⟩ := InputTrace.computes_of_nearest? hnearest
      obtain ⟨hgraph, hname, hslot⟩ := of_decide_eq_true hcomputes
      exact ⟨⟨op, execution, input, hstored, hitem, List.mem_of_getElem? hinput, hname.symm,
        hslot.symm⟩, execution, hitem, hgraph⟩

end RunScope

namespace Session

variable {session : Session}

/-! ## Events -/

/-- What an event gives the focus to. -/
def focusOf (session : Session) : Event → GraphFocus
  | .graphOpFocused key => { op := session.activeRun.map fun _ => key }
  | .focusByDisplayOffset .graphExecutions offset =>
    if session.activeRun.isSome then session.scope.focusAtOffset offset else {}
  | .loaded run reply =>
    if session.activeRun = some run then RunScope.focusOfReply reply else {}
  | _ => {}

theorem graphFocus_inRun (session : Session)
    {change : RunScope → RunId → RunScope × Except ViewError Command}
    (hkeeps : ∀ run, (change session.scope run).1.graphFocus = session.scope.graphFocus) :
    (session.inRun change).1.scope.graphFocus = session.scope.graphFocus := by
  rcases Option.eq_none_or_eq_some session.activeRun with hactive | ⟨run, hactive⟩
  · rw [inRun_of_none hactive]
  · rw [inRun_of_some hactive]
    exact hkeeps run

theorem graphFocus_changeRun (session : Session) (run : Option RunId) :
    (session.changeRun run).1.scope.graphFocus = {} := by
  let selected : Session :=
    { session with activeRun := run, scope := .fresh session.config session.config_valid }
  exact selected.graphFocus_inRun fun _ => rfl

theorem graphFocus_scrolled (session : Session) (kind : SequenceKind) (step : ScrollStep) :
    (session.inRun fun scope run => scope.scroll run kind step).1.scope.graphFocus =
      session.scope.graphFocus :=
  session.graphFocus_inRun fun run => session.scope.graphFocus_scroll run kind step

theorem graphFocus_reduce (hshaped : session.Shaped) (event : Event) (now : Nat) :
    (session.reduce now event).1.scope.graphFocus =
      (session.focusOf event).or (session.scopeFor event).graphFocus := by
  cases event with
  | activeRunChanged run => exact session.graphFocus_changeRun run
  | runsLoaded runs =>
      rw [reduce, scopeFor]
      by_cases hsame : runs.minKey? = session.activeRun
      · have hstays : session.selects (.runsLoaded runs) = false := by simp [selects, hsame]
        rw [if_pos hsame, hstays]
        rfl
      · have hselects : session.selects (.runsLoaded runs) = true := bne_iff_ne.mpr hsame
        rw [if_neg hsame, if_pos hselects]
        -- the first run of the listing is selected, and its scope has no focus
        exact graphFocus_changeRun _ runs.minKey?
  | loaded run reply =>
      rw [focusOf, scopeFor_of_stays rfl]
      by_cases hactive : session.activeRun = some run
      · rw [if_pos hactive, (reduce_loaded hactive reply now).1]
        exact RunScope.graphFocus_onReply hshaped.valid run now reply
      · rw [if_neg hactive, reduce_loaded_inactive hactive]
        rfl
  | fetchFailed run request =>
      rw [reduce, onFetchFailed]
      split_ifs
      · exact session.scope.graphFocus_onFetchFailed request
      · rfl
  | focusByDisplayOffset kind offset =>
      cases kind with
      | executions => exact session.graphFocus_inRun fun _ => rfl
      | graphExecutions =>
          rw [focusOf, scopeFor_of_stays rfl, reduce, adjustRun]
          rcases Option.eq_none_or_eq_some session.activeRun with hactive | ⟨run, hactive⟩
          · rw [inRun_of_none hactive, hactive]
            rfl
          · rw [inRun_of_some hactive, hactive]
            exact session.scope.graphFocus_focusByOffset offset
  | graphOpFocused key =>
      rw [focusOf, scopeFor_of_stays rfl, reduce, adjustRun]
      rcases Option.eq_none_or_eq_some session.activeRun with hactive | ⟨run, hactive⟩
      · rw [inRun_of_none hactive, hactive]
        rfl
      · rw [inRun_of_some hactive, hactive]
        rfl
  | scrollLeft kind => exact session.graphFocus_scrolled kind .left
  | scrollRight kind => exact session.graphFocus_scrolled kind .right
  | scrollToIndex kind index => exact session.graphFocus_scrolled kind (.toIndex index)
  | alertTypeFocusToggled alertType =>
      exact session.graphFocus_inRun fun run => session.scope.graphFocus_toggleAlerts run alertType
  | graphOpInfoRequested key =>
      exact session.graphFocus_inRun fun run => session.scope.graphFocus_requestOp run key
  | sourceFileRequested file =>
      exact session.graphFocus_inRun fun run => session.scope.graphFocus_requestFile run file
  | pollStarted => exact graphFocus_inRun { session with pollOnset := now } fun _ => rfl
  | refresh => exact session.graphFocus_inRun fun _ => rfl
  | runsRequested | runsFailed | sourceLineClicked | stickyFocusSet => rfl

theorem graphFocus_settle (session : Session) :
    session.settle.1.scope.graphFocus = session.scope.graphFocus := by
  rcases Option.eq_none_or_eq_some session.activeRun with hactive | ⟨run, hactive⟩
  · rw [settle_of_none hactive]
  · rw [settle_of_some hactive]
    exact session.scope.graphFocus_settle run session.stickyFocus

/-- Each focus is where the event puts it, and else stays where it is. -/
theorem graphFocus_apply (hshaped : session.Shaped) (event : Event) (now : Nat) :
    (session.apply event now).1.scope.graphFocus =
      (session.focusOf event).or (session.scopeFor event).graphFocus := by
  rw [← graphFocus_reduce hshaped event now]
  exact apply_induct
    (motive := fun after _ =>
      after.scope.graphFocus = (session.reduce now event).1.scope.graphFocus)
    rfl (graphFocus_settle _)

/-! ## Histories -/

/-- Where events, one after another, leave the two focuses.  Selecting a run starts without. -/
def focusAlong (session : Session) (focus : GraphFocus) : List (Event × Nat) → GraphFocus
  | [] => focus
  | step :: rest =>
    (session.apply step.1 step.2).1.focusAlong
      ((session.focusOf step.1).or (if session.selects step.1 then {} else focus)) rest

theorem graphFocus_applyAll (hshaped : session.Shaped) (steps : List (Event × Nat)) :
    (session.applyAll steps).scope.graphFocus =
      session.focusAlong session.scope.graphFocus steps := by
  induction steps generalizing session with
  | nil => rfl
  | cons step rest ih =>
      have hstart : (session.scopeFor step.1).graphFocus =
          if session.selects step.1 then {} else session.scope.graphFocus := by
        rw [scopeFor]
        split_ifs <;> rfl
      rw [focusAlong, ← hstart, ← graphFocus_apply hshaped]
      exact ih ((session.reshapes_apply step.1 step.2).shaped hshaped)

theorem focusAlong_append (session : Session) (focus : GraphFocus)
    (earlier later : List (Event × Nat)) :
    session.focusAlong focus (earlier ++ later) =
      (session.applyAll earlier).focusAlong (session.focusAlong focus earlier) later := by
  induction earlier generalizing session focus with
  | nil => rfl
  | cons step rest ih => exact ih _ _

/-- Whether the last event of a history that moves a focus within graphs, or selects a run, is one
that goes to an execution which is held. -/
def WentTo (session : Session) (history : List (Event × Nat)) (execution : GraphExecution) : Prop :=
  ∃ earlier offset now later,
    history = earlier ++ (.focusByDisplayOffset .graphExecutions offset, now) :: later ∧
    let before := session.applyAll earlier
    let graphExecutions := before.scope.graphExecutions
    before.activeRun.isSome = true ∧
      graphExecutions.items[graphExecutions.view.window.indexAt offset]? = some execution ∧
      ∀ focus, (before.apply (.focusByDisplayOffset .graphExecutions offset) now).1.focusAlong focus
        later = focus

/-- Going to an execution that is held puts the focus on the op that it ran. -/
theorem op_focusAlong_of_wentTo {history : List (Event × Nat)} {execution : GraphExecution}
    (hwent : session.WentTo history execution) (focus : GraphFocus) :
    (session.focusAlong focus history).op = some execution.opKey := by
  obtain ⟨earlier, offset, now, later, rfl, hactive, hheld, hstill⟩ := hwent
  rw [focusAlong_append, focusAlong, hstill, focusOf, if_pos hactive]
  simp [GraphFocus.or, RunScope.focusAtOffset, hheld]

/-- The inputs that are traced are those of the op that has the focus, and they are traced back
from the execution that has it.  The op is the one that the execution ran if a session went to the
execution when it was held, and neither focus was moved since. -/
theorem inputs_of_focused_op (config : Config) (valid : config.Valid)
    (history : List (Event × Nat)) :
    let session := (fresh config valid).applyAll history
    let focus := (fresh config valid).focusAlong {} history
    session.inputIndices =
        InputTrace.indices focus.execution session.scope.graphExecutions.view.sequence
          ((focus.op.bind session.scope.ops.op?).map (·.inputs)) session.config.maxLookBack ∧
      ∀ found focused, session.inputIndices = some found →
        session.scope.graphExecutions.view.focusedItem = some focused →
          (∃ key, focus.op = some key ∧ ∀ index ∈ found, session.scope.Reads key index ∧
            ∃ execution, session.scope.graphExecutions.items[index]? = some execution ∧
              execution.graphId = focused.graphId) ∧
          (focus.op = some focused.opKey ∨ (fresh config valid).WentTo history focused →
            ∀ index ∈ found, session.scope.Reads focused.opKey index) := by
  intro session focus
  have hshaped : (fresh config valid).Shaped := geometry_fresh config valid
  have hfocus : session.scope.graphFocus = focus := graphFocus_applyAll hshaped history
  refine ⟨?_, fun found focused hanswer hfocused => ?_⟩
  · rw [← hfocus]
    exact session.scope.inputIndices_eq session.config.maxLookBack
  · obtain ⟨key, hkey, hreads⟩ := RunScope.reads_of_inputIndices hanswer hfocused
    rw [hfocus] at hkey
    refine ⟨⟨key, hkey, hreads⟩, fun hown index hindex => ?_⟩
    -- the op has the focus, or it got it when the user went to the execution
    have hop : focus.op = some focused.opKey := hown.elim id (op_focusAlong_of_wentTo · {})
    rw [hkey, Option.some.injEq] at hop
    exact hop ▸ (hreads index hindex).1

/-- Four ops of a graph were executed, and the op `b` of the second execution, to which the session
went, reads what the first one computed. -/
def wentToSecond : List (Event × Nat) :=
  [(.activeRunChanged (some "a"), 0),
    (.loaded "a" (.numGraphExecutions 4), 1),
    (.loaded "a" (.graphExecutions
      { range := ⟨0, 4⟩
        items := ["a", "b", "c", "d"].map (Sample.graphExecution "g" · 0)
        total := 4 }), 2),
    (.focusByDisplayOffset .graphExecutions 1, 3),
    (.loaded "a" (.graphOpInfo (Sample.graphOp "g" "b" ["a"] [])), 4)]

/-- Then an alert points at the fourth execution, whose op `d` reads what the third one computed. -/
def pointedToFourth : List (Event × Nat) :=
  wentToSecond ++
    [(.loaded "a" (.graphOpInfo (Sample.graphOp "g" "d" ["c"] [])), 5),
      (.loaded "a" (.alertsOfType .infNan ⟨0, 1⟩ {} [Sample.infNanAlert 0 (some 3)]), 6)]

/-- While the focus is on the second execution, its own input is traced. -/
theorem inputs_of_focused_op_second :
    let session := (fresh {} (by decide)).applyAll wentToSecond
    session.inputIndices = some [0] ∧
      ∃ focused, session.scope.graphExecutions.view.focusedItem = some focused ∧
        focused.opKey = { graphId := "g", opName := "b" } ∧
        session.scope.Reads focused.opKey 0 := by
  intro session
  have hanswer : session.inputIndices = some [0] := by decide +kernel
  have hkey : session.scope.graphExecutions.view.focusedItem.map GraphExecution.opKey =
      some { graphId := "g", opName := "b" } := by decide +kernel
  obtain ⟨focused, hfocused, hkey⟩ := Option.map_eq_some_iff.mp hkey
  have hop : ((fresh {} (by decide)).focusAlong {} wentToSecond).op =
      some { graphId := "g", opName := "b" } := by decide +kernel
  refine ⟨hanswer, focused, hfocused, hkey, ?_⟩
  exact ((inputs_of_focused_op {} (by decide) wentToSecond).2 [0] focused hanswer hfocused).2
    (Or.inl (hkey ▸ hop)) 0 List.mem_cons_self

/-- When an alert takes the focus to the fourth execution, the input of the second one is still
what is traced. -/
theorem not_always_inputs_of_focused_execution :
    ¬ ∀ (config : Config) (valid : config.Valid) (history : List (Event × Nat)) (found : List Nat)
      (focused : GraphExecution),
      let session := (fresh config valid).applyAll history
      session.inputIndices = some found →
        session.scope.graphExecutions.view.focusedItem = some focused →
          ∀ index ∈ found, session.scope.Reads focused.opKey index := by
  intro hall
  have hreads := fun found focused => hall {} (by decide) pointedToFourth found focused
  generalize hreached : (fresh {} (by decide)).applyAll pointedToFourth = session at hreads
  have hanswer : session.inputIndices = some [0] := by
    rw [← hreached]
    decide +kernel
  have hkey : session.scope.graphExecutions.view.focusedItem.map GraphExecution.opKey =
      some { graphId := "g", opName := "d" } := by
    rw [← hreached]
    decide +kernel
  have hnames : (session.scope.ops.op? { graphId := "g", opName := "d" }).map
      (fun op => op.inputs.map OpInput.opName) = some ["c"] := by
    rw [← hreached]
    decide +kernel
  have hname : (session.scope.graphExecutions.items[0]?).map GraphExecution.opName = some "a" := by
    rw [← hreached]
    decide +kernel
  obtain ⟨focused, hfocused, hkey⟩ := Option.map_eq_some_iff.mp hkey
  have hfirst := hreads [0] focused hanswer hfocused 0 List.mem_cons_self
  rw [hkey] at hfirst
  exact absurd (hfirst.mem_names hnames hname) (by decide)

end Session

end TraceViewer
