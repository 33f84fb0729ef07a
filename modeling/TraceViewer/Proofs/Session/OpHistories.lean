import TraceViewer.Proofs.Session.Responses
import TraceViewer.Proofs.Session.StoredOps

/-!
# The histories of the op store

A session does nothing to its ops but tell the store of them what the store is made to be
told: that an op is requested, has failed, has arrived, or has the focus.  So what is true of
every store is true of the one in a session (`orderly_ops`).

Moreover a session asks for an op when the store says that it has to be fetched, and at no other
time.  Since the store makes a stage of loading for such an op and for no other, the ops that
have a stage are those that were asked for since the run was selected
(`isSome_phase?_iff_asked`): an op that only came along as a neighbour has none.
-/

namespace TraceViewer

/-! ## Stores -/

namespace OpStore

variable {store before middle after : OpStore} {key : GraphOpKey} {asked more : List Datum}

/-- The op that has to be fetched because of what a store is told, if any. -/
def asksFor (store : OpStore) : Act → List GraphOpKey
  | .request key => if (store.request key).2 then [key] else []
  | .fail _ | .arrive _ | .focus _ => []

/-- The ops that have to be fetched when a store is told one thing after the other. -/
def wanted (store : OpStore) : List Act → List GraphOpKey
  | [] => []
  | act :: rest => store.asksFor act ++ (store.perform act).wanted rest

theorem wanted_append (store : OpStore) (acts further : List Act) :
    store.wanted (acts ++ further) =
      store.wanted acts ++ (store.performAll acts).wanted further := by
  induction acts generalizing store with
  | nil => rfl
  | cons act rest ih =>
      rw [List.cons_append, wanted, wanted, ih, List.append_assoc]
      rfl

/-- What a store is told makes a stage for an op exactly when the op has to be fetched. -/
theorem isSome_phase?_perform (store : OpStore) (act : Act) (key : GraphOpKey) :
    ((store.perform act).phase? key).isSome = true ↔
      (store.phase? key).isSome = true ∨ key ∈ store.asksFor act := by
  cases act with
  | request requested =>
      rw [perform, asksFor]
      rcases store.request_cases requested with ⟨_, hrequest⟩ | ⟨_, hrequest⟩ <;> rw [hrequest]
      · simp
      · rw [phase?_setPhase, if_pos rfl, List.mem_singleton]
        by_cases hkey : requested = key
        · simp [hkey]
        · simp [hkey, Ne.symm hkey]
  | fail failed =>
      rw [perform, onFailed, phase?_updatePhase, asksFor]
      split_ifs <;> simp
  | arrive op =>
      rw [perform, asksFor]
      cases hgraph : op.graphId? with
      | none =>
          rw [onLoaded, hgraph]
          simp
      | some graphId =>
          -- the neighbours get no stage, and the op itself only if it has one
          obtain ⟨arrived, hloaded, htakes⟩ := store.takes_onLoaded hgraph
          rw [hloaded]
          by_cases hkey : key = { graphId, opName := op.opName }
          · rw [hkey, htakes.phase_main]
            simp
          · rw [htakes.phase_other key hkey]
            simp
  | focus focused =>
      rw [asksFor]
      simp only [List.not_mem_nil, or_false]
      rfl

theorem isSome_phase?_performAll (store : OpStore) (acts : List Act) (key : GraphOpKey) :
    ((store.performAll acts).phase? key).isSome = true ↔
      (store.phase? key).isSome = true ∨ key ∈ store.wanted acts := by
  induction acts generalizing store with
  | nil => simp [performAll, wanted]
  | cons act rest ih =>
      rw [wanted, List.mem_append, ← or_assoc, ← isSome_phase?_perform]
      exact ih (store.perform act)

/-- What a store was told leads to another, and the ops among some data are those that have to
be fetched for it. -/
def Told (before after : OpStore) (asked : List Datum) : Prop :=
  ∃ acts, after = before.performAll acts ∧ ∀ key, .op key ∈ asked ↔ key ∈ before.wanted acts

/-- A store that was told nothing. -/
theorem told_self (store : OpStore) (hasked : ∀ key, .op key ∉ asked) : store.Told store asked :=
  ⟨[], rfl, fun key => iff_of_false (hasked key) List.not_mem_nil⟩

theorem told_perform (store : OpStore) (act : Act)
    (hasked : ∀ key, .op key ∈ asked ↔ key ∈ store.asksFor act) :
    store.Told (store.perform act) asked := by
  refine ⟨[act], rfl, fun key => ?_⟩
  rw [hasked, wanted, wanted, List.append_nil]

theorem told_quietly (store : OpStore) (act : Act) (hquiet : store.asksFor act = []) :
    store.Told (store.perform act) [] := by
  refine store.told_perform act fun key => ?_
  rw [hquiet]
  exact iff_of_false List.not_mem_nil List.not_mem_nil

theorem Told.trans (hfirst : before.Told middle asked) (hsecond : middle.Told after more) :
    before.Told after (asked ++ more) := by
  obtain ⟨acts, rfl, hacts⟩ := hfirst
  obtain ⟨further, rfl, hfurther⟩ := hsecond
  refine ⟨acts ++ further, ?_, fun key => ?_⟩
  · rw [performAll, performAll, performAll, List.foldl_append]
  · rw [List.mem_append, wanted_append, List.mem_append, hacts, hfurther]

theorem Told.orderly (htold : before.Told after asked) (horderly : before.Orderly) :
    after.Orderly := by
  obtain ⟨acts, rfl, _⟩ := htold
  exact orderly_performAll horderly acts

theorem Told.isSome_phase?_iff (htold : before.Told after asked) (key : GraphOpKey) :
    (after.phase? key).isSome = true ↔ (before.phase? key).isSome = true ∨ .op key ∈ asked := by
  obtain ⟨acts, rfl, hacts⟩ := htold
  rw [isSome_phase?_performAll, hacts]

end OpStore

/-! ## Scopes -/

namespace RunScope

variable {scope before after : RunScope}

/-- Alerts are asked for, and no ops. -/
theorem told_requestAlerts (scope : RunScope) (run : RunId) (alertType : AlertType) :
    scope.ops.Told (scope.requestAlerts run alertType).1.ops
      (dataOf (scope.requestAlerts run alertType).2.queue) := by
  refine scope.ops.told_self fun key => ?_
  rw [requestAlerts, AlertBoard.requestType]
  split_ifs <;> simp [Command.queue, Request.data]

theorem told_scroll (scope : RunScope) (run : RunId) (kind : SequenceKind)
    (step : ScrollStep) :
    scope.ops.Told (scope.scroll run kind step).1.ops
      (dataOf (Command.queueOf (scope.scroll run kind step).2)) := by
  rw [dataOf_scroll]
  cases kind <;> exact scope.ops.told_self fun _ => List.not_mem_nil

theorem told_toggleAlerts (scope : RunScope) (run : RunId) (alertType : AlertType) :
    scope.ops.Told (scope.toggleAlerts run alertType).1.ops
      (dataOf (Command.queueOf (scope.toggleAlerts run alertType).2)) := by
  refine toggleAlerts_induct
    (motive := fun after queue => scope.ops.Told after.ops (dataOf queue)) alertType
    (scope.ops.told_self fun _ => List.not_mem_nil) ?_ ?_
  · intro index
    exact told_scroll { scope with alerts := scope.alerts.toggleFocus alertType } run
      .executions (.recenter index)
  · intro moved queue hmoved
    rw [dataOf_append]
    exact hmoved.trans (told_requestAlerts moved run alertType)

theorem told_requestOp (scope : RunScope) (run : RunId) (key : GraphOpKey) :
    scope.ops.Told (scope.requestOp run key).1.ops
      (dataOf (scope.requestOp run key).2.queue) := by
  refine scope.ops.told_perform (.request key) fun other => ?_
  rw [OpStore.asksFor, requestOp]
  rcases scope.ops.request key with ⟨ops, _ | _⟩
  · simp
  · simp [Command.queue, Request.data]

theorem told_requestFile (scope : RunScope) (run : RunId) (file : SourceFile) :
    scope.ops.Told (scope.requestFile run file).1.ops
      (dataOf (Command.queueOf (scope.requestFile run file).2)) := by
  rw [requestFile]
  rcases scope.sources.requestFile file with error | ⟨sources, _ | _⟩ <;>
    refine scope.ops.told_self fun key => ?_ <;>
    simp [Command.queueOf, Command.queue, Request.data]

theorem told_focusByOffset (scope : RunScope) (kind : SequenceKind) (offset : Nat) :
    scope.ops.Told (scope.focusByOffset kind offset).ops [] := by
  cases kind with
  | executions => exact scope.ops.told_self fun _ => List.not_mem_nil
  | graphExecutions =>
      rw [focusByOffset]
      split
      · exact scope.ops.told_self fun _ => List.not_mem_nil
      · exact scope.ops.told_quietly (.focus _) rfl

theorem told_operate (scope : RunScope) (run : RunId) (operation : Operation) :
    scope.ops.Told (scope.operate run operation).1.ops
      (dataOf (Command.queueOf (scope.operate run operation).2)) := by
  cases operation with
  | refresh =>
      change scope.ops.Told scope.ops (dataOf (scope.refresh run).2.queue)
      rw [dataOf_refresh]
      exact scope.ops.told_self fun _ => List.not_mem_nil
  | scroll kind step => exact told_scroll ..
  | focusByOffset kind offset => exact told_focusByOffset ..
  | toggleAlerts alertType => exact told_toggleAlerts ..
  | focusOp key => exact scope.ops.told_quietly (.focus key) rfl
  | requestOp key => exact told_requestOp ..
  | requestFile file => exact told_requestFile ..

/-- Settling tells the store of the op that it wants, which is not held and not being
fetched. -/
theorem told_settle (scope : RunScope) (run : RunId) (sticky : Bool) :
    scope.ops.Told (scope.settle run sticky).1.ops
      (dataOf (scope.settle run sticky).2.queue) := by
  obtain ⟨focusLine, hfollowed, _⟩ := scope.followed_eq sticky
  have hlacks := scope.lacks_wants
  rw [settle_eq_grant, Wants.data_command, hfollowed, grant]
  generalize scope.wants = wants at hlacks
  obtain ⟨origin, frames, file⟩ := wants
  cases origin with
  | none => exact scope.ops.told_self fun key => by simp [Wants.data]
  | some origin =>
      cases origin with
      | execution index =>
          exact scope.ops.told_self fun key => by simp [Wants.data, FocusOrigin.datum]
      | graphOpCreation wanted =>
          -- what is wanted was not sought, so the store takes the request up and marks the op
          have hunsought : ¬ ((scope.ops.op? wanted).isSome ∨
              scope.ops.phase wanted = .loading) :=
            of_decide_eq_false (hlacks.origin (.graphOpCreation wanted) rfl)
          have hrequest : scope.ops.request wanted = (scope.ops.setPhase wanted .loading, true) :=
            if_neg hunsought
          have hmarked : scope.ops.perform (.request wanted) =
              scope.ops.setPhase wanted .loading := congrArg Prod.fst hrequest
          dsimp only [Option.elim_some, OpStore.markOrigin]
          rw [← hmarked]
          refine scope.ops.told_perform (.request wanted) fun key => ?_
          simp [OpStore.asksFor, hrequest, Wants.data, FocusOrigin.datum]

theorem told_onReply (scope : RunScope) (run : RunId) (now : Nat) (reply : Reply) :
    scope.ops.Told (scope.onReply run now reply).1.ops
      (dataOf (Command.queueOf ((scope.onReply run now reply).2.map Prod.fst))) := by
  have hnothing : scope.ops.Told scope.ops [] := scope.ops.told_self fun _ => List.not_mem_nil
  cases reply with
  | numExecutions total =>
      refine numExecutions_induct
        (motive := fun after queue => scope.ops.Told after.ops (dataOf queue)) now total ?_ ?_
      · rw [Timeline.dataOf_onTotal]
        exact hnothing
      · intro before queue htaken
        rw [focusFirst]
        split_ifs <;> exact htaken
  | numGraphExecutions total =>
      change scope.ops.Told scope.ops (dataOf (Command.queueOf
        ((scope.graphExecutions.onTotal run total now).2.map Prod.fst)))
      rw [Timeline.dataOf_onTotal]
      exact hnothing
  | executionDigests batch =>
      change scope.ops.Told scope.ops (dataOf (Command.queueOf
        ((scope.executions.digests.onPage run batch now).2.map Prod.fst)))
      rw [Timeline.dataOf_onPage]
      exact hnothing
  | graphExecutions batch =>
      change scope.ops.Told scope.ops (dataOf (Command.queueOf
        ((scope.graphExecutions.onPage run batch now).2.map Prod.fst)))
      rw [Timeline.dataOf_onPage]
      exact hnothing
  | executionData range records =>
      rw [onReply]
      rcases scope.executions.onRecords range records with ⟨executions, error | _⟩ <;>
        exact hnothing
  | graphOpInfo op =>
      have harrived : scope.ops.Told (scope.ops.onLoaded op).1 [] :=
        scope.ops.told_quietly (.arrive op) rfl
      rw [onReply]
      rcases hloaded : scope.ops.onLoaded op with ⟨ops, error | _⟩ <;> rw [hloaded] at harrived <;>
        exact harrived
  | sourceFile file lines =>
      rw [onReply]
      cases scope.sources.onFileLoaded file lines <;> exact hnothing
  | numAlertsAndBreakdown tally =>
      let tallied : RunScope := { scope with alerts := (scope.alerts.onTally tally now).1 }
      change scope.ops.Told (tallied.requestFocusedAlerts run).1.ops
        (dataOf (tallied.requestFocusedAlerts run).2.queue)
      rw [requestFocusedAlerts]
      split
      · exact hnothing
      · exact told_requestAlerts tallied run _
  | alertsOfType alertType range tally alerts =>
      refine alertsOfType_induct
        (motive := fun after queue => scope.ops.Told after.ops (dataOf queue)) now alertType range
        tally alerts hnothing hnothing ?_ ?_
      · intro index
        exact told_scroll
          { scope with alerts := scope.alerts.merge alertType range tally alerts now } run
          .executions (.recenter index)
      · intro moved queue _ hmoved
        exact hmoved
  | stackFrames | sourceFileList => exact hnothing

theorem told_onFetchFailed (scope : RunScope) (request : Request) :
    scope.ops.Told (scope.onFetchFailed request).ops [] := by
  have hnothing : scope.ops.Told scope.ops [] := scope.ops.told_self fun _ => List.not_mem_nil
  cases request with
  | graphOpInfo key => exact scope.ops.told_quietly (.fail key) rfl
  | page kind range => cases kind <;> exact hnothing
  | _ => exact hnothing

theorem told_responds {active : Option RunId} {event : Event} {queue : List PendingFetch}
    (hresponds : Responds active event before after queue) :
    before.ops.Told after.ops (dataOf queue) := by
  cases hresponds with
  | rest _ _ _ _ hnothing => exact before.ops.told_self (by simp [hnothing])
  | operate run _ _ operation => exact before.told_operate run operation
  | click => exact before.ops.told_self fun _ => List.not_mem_nil
  | reply run now reply => exact before.told_onReply run now reply
  | fail run request => exact before.told_onFetchFailed request

end RunScope

/-! ## Sessions -/

namespace Session

variable {session : Session}

/-- The data that a session asks for since a run was last selected, when it asked for some
before. -/
def askedSince (session : Session) (asked : List Datum) : List (Event × Nat) → List Datum
  | [] => asked
  | (event, now) :: rest =>
    (session.apply event now).1.askedSince
      ((if session.selects event then [] else asked) ++ session.asked event now) rest

theorem told_settle (session : Session) :
    session.scope.ops.Told session.settle.1.scope.ops (dataOf session.settle.2.queue) := by
  rcases Option.eq_none_or_eq_some session.activeRun with hactive | ⟨run, hactive⟩
  · rw [settle_of_none hactive]
    exact session.scope.ops.told_self fun _ => List.not_mem_nil
  · rw [settle_of_some hactive]
    exact session.scope.told_settle run session.stickyFocus

theorem told_apply (session : Session) (event : Event) (now : Nat) :
    (session.scopeFor event).ops.Told (session.apply event now).1.scope.ops
      (session.asked event now) := by
  have hreduced := RunScope.told_responds (session.responds_reduce event now)
  rw [asked]
  refine apply_induct (motive := fun after queue =>
    (session.scopeFor event).ops.Told after.scope.ops (dataOf queue)) hreduced ?_
  rw [dataOf_append]
  exact hreduced.trans (told_settle _)

/-- What was asked for before counts as long as no run is selected. -/
theorem told_applyAll {asked : List Datum} (htold : OpStore.Told {} session.scope.ops asked)
    (history : List (Event × Nat)) :
    OpStore.Told {} (session.applyAll history).scope.ops (session.askedSince asked history) := by
  induction history generalizing session asked with
  | nil => exact htold
  | cons step rest ih =>
      refine ih ?_
      have hstep := session.told_apply step.1 step.2
      rw [scopeFor] at hstep
      split_ifs at hstep ⊢ with hselects
      · exact hstep
      · exact htold.trans hstep

theorem told_fresh (config : Config) (valid : config.Valid) (history : List (Event × Nat)) :
    OpStore.Told {} ((fresh config valid).applyAll history).scope.ops
      ((fresh config valid).askedSince [] history) :=
  told_applyAll (OpStore.told_self {} fun _ => List.not_mem_nil) history

/-- Whatever a session was told, its ops are kept in order. -/
theorem orderly_ops (config : Config) (valid : config.Valid) (history : List (Event × Nat)) :
    ((fresh config valid).applyAll history).scope.ops.Orderly :=
  (told_fresh config valid history).orderly OpStore.orderly_empty

/-- The ops that have a stage of loading are those that were asked for since the run was
selected. -/
theorem isSome_phase?_iff_asked (config : Config) (valid : config.Valid)
    (history : List (Event × Nat)) (key : GraphOpKey) :
    (((fresh config valid).applyAll history).scope.ops.phase? key).isSome = true ↔
      .op key ∈ (fresh config valid).askedSince [] history := by
  rw [(told_fresh config valid history).isSome_phase?_iff]
  simp [OpStore.phase?]

end Session

end TraceViewer
