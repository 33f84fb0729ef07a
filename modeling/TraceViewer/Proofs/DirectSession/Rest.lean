import Mathlib.Data.List.Permutation
import TraceViewer.Proofs.DirectSession.Mirror
import TraceViewer.Proofs.Simulation.Draining
import TraceViewer.Sample

/-!
# A direct session comes to rest

A direct session whose archive is online comes to rest with every call, whether the call
succeeds or not (`atRest_call`): the queue is empty long before the limit on events is
reached, nothing is marked as being fetched any more, and both windows are full.

Each dispatch mirrors a simulation that starts at rest, so it ends because the workload of
the simulation shrinks, and it ends at rest because the simulation is draining
(`Dispatch.drain_spec`).  Neither depends on the time, so the clock may show anything.
What is recorded between two calls does not disturb the rest (`AtRest.add`).
-/

namespace TraceViewer

theorem Session.AtRest.add {archive : Archive} {session : Session}
    (hrest : session.AtRest archive) (addition : Addition) :
    session.AtRest (archive.add addition) where
  backed := hrest.backed.mono fun run kind => archive.total_add addition run kind
  shaped := hrest.shaped
  fed := hrest.fed
  assured := hrest.assured

theorem Session.atRest_fresh (config : Config) (valid : config.Valid) (archive : Archive) :
    (Session.fresh config valid).AtRest archive where
  backed := Session.backed_fresh config valid
  shaped := Session.geometry_fresh config valid
  fed := by
    rintro run ⟨⟩
  assured := by
    rintro run ⟨⟩

/-- What is pending and what it leads to have nothing to do with the time. -/
theorem Simulation.Draining.atTime {refreshed : Bool} {simulation : Simulation Archive}
    (hdraining : simulation.Draining refreshed) (now : Nat) :
    (simulation.atTime now).Draining refreshed where
  backed := ⟨hdraining.backed.session, hdraining.backed.keyed⟩
  shaped := hdraining.shaped
  fills := hdraining.fills
  listing := hdraining.listing

namespace DirectSession

variable {direct : DirectSession Archive}

/-! ## Calls -/

/-- What can be asked of a direct session. -/
inductive Call where
  | openFirstRun
  | poll
  | dispatch (event : Event)

/-- The event that a call dispatches. -/
def Call.event : Call → Event
  | .openFirstRun => .runsRequested
  | .poll => .pollStarted
  | .dispatch event => event

/-- Make a call.  The clock is read once for each event that it leads to. -/
def call (direct : DirectSession Archive) (clock : Clock) :
    Call → DirectSession Archive × Except SessionError DispatchReport
  | .openFirstRun => direct.openFirstRun clock
  | .poll => direct.poll clock
  | .dispatch event => direct.dispatch event clock

theorem dispatch_fst (direct : DirectSession Archive) (event : Event) (clock : Clock) :
    (direct.dispatch event clock).1 = (direct.drained event clock).direct := rfl

/-- A call leaves what the dispatch of its event leaves, apart from the error of the
listing. -/
theorem call_spec (direct : DirectSession Archive) (clock : Clock) (call : Call) :
    (direct.call clock call).1.session = (direct.drained call.event clock).direct.session ∧
      (direct.call clock call).1.source = (direct.drained call.event clock).direct.source := by
  cases call with
  | openFirstRun =>
      rw [DirectSession.call, openFirstRun, Call.event, ← dispatch_fst]
      rcases direct.dispatch .runsRequested clock with ⟨dispatched, error | report⟩
      · exact ⟨rfl, rfl⟩
      · dsimp only
        cases dispatched.listingError <;> exact ⟨rfl, rfl⟩
  | poll => exact ⟨rfl, rfl⟩
  | dispatch event => exact ⟨rfl, rfl⟩

theorem source_call (direct : DirectSession Archive) (clock : Clock) (call : Call) :
    (direct.call clock call).1.source = direct.source :=
  (direct.call_spec clock call).2.trans (Dispatch.source_drain clock eventLimit _)

/-- A dispatch that mirrors a draining simulation applies all its events when the limit
allows for the workload, and it ends as the simulation does: draining, with nothing pending. -/
theorem Dispatch.drain_spec {dispatch : Dispatch Archive} {simulation : Simulation Archive}
    (hmirrors : dispatch.Mirrors simulation) (honline : simulation.source.offline = false)
    (hdraining : simulation.Draining false) (clock : Clock) {limit : Nat}
    (hload : simulation.workload ≤ limit) :
    ∃ final : Simulation Archive, (drain clock limit dispatch).Mirrors final ∧
      final.source = simulation.source ∧ final.Draining false ∧ final.pending = [] ∧
      (drain clock limit dispatch).report.events ≤
        dispatch.report.events + simulation.workload := by
  induction limit generalizing dispatch simulation with
  | zero =>
      have hempty : simulation.pending.length = 0 := by
        rw [Simulation.workload] at hload
        omega
      exact ⟨simulation, hmirrors, rfl, hdraining, List.length_eq_zero_iff.mp hempty,
        Nat.le_add_right ..⟩
  | succ limit ih =>
      rw [drain]
      cases hqueue : dispatch.queue with
      | nil =>
          exact ⟨simulation, hmirrors, rfl, hdraining, hmirrors.pending_eq_nil hqueue,
            Nat.le_add_right ..⟩
      | cons event rest =>
          let now := clock.read dispatch.report.events
          obtain ⟨next, hnext, hmirrored⟩ := (hmirrors.atTime now).deliver hqueue
          -- setting the clock changes neither the source nor what there is to do
          have hmoved : (simulation.atTime now).source.offline = false := honline
          have hsame : (simulation.atTime now).workload = simulation.workload := rfl
          have hdrained := Simulation.draining_deliverNext hmoved (hdraining.atTime now) hnext
          have hless := Simulation.workload_deliverAt_lt hnext
          have hsource := Simulation.source_deliverNext hnext
          obtain ⟨final, hfinal, hkept, hends, hempty, hcount⟩ :=
            ih hmirrored (hsource ▸ hmoved) hdrained (by omega)
          have hevents := (step_spec { dispatch with queue := rest } event now).2.2.2
          refine ⟨final, hfinal, hkept.trans hsource, hends, hempty, hcount.trans ?_⟩
          calc
            _ = dispatch.report.events + 1 + next.workload :=
              congrArg (· + next.workload) hevents
            _ ≤ dispatch.report.events + simulation.workload := by omega

/-- A call on an archive that is online ends before the limit, at rest. -/
theorem atRest_call (hrest : direct.session.AtRest direct.source)
    (hkeyed : ∀ run, (direct.source.recordingOf run).Keyed)
    (honline : direct.source.offline = false) {call : Call} (huser : call.event.isUser = true)
    (clock : Clock) :
    (direct.drained call.event clock).queue = [] ∧
      (direct.drained call.event clock).report.events < eventLimit ∧
      (direct.call clock call).1.session.AtRest direct.source := by
  let sent := (direct.simulationAt (clock.read 0)).send call.event
  have hquiet : (direct.simulationAt (clock.read 0)).pending = [] := rfl
  have hload : sent.workload ≤ 506 := Simulation.workload_send_user_le hquiet huser
  have hsource : sent.source = direct.source := Simulation.source_send ..
  have hsent : sent.Draining false := Simulation.draining_send_user hquiet hkeyed hrest huser
  obtain ⟨final, hmirrors, hsame, hdraining, hempty, hcount⟩ :=
    Dispatch.drain_spec (direct.mirrors_started call.event clock) (hsource ▸ honline) hsent clock
      (Nat.le_trans hload (by decide : 506 ≤ eventLimit - 1))
  rw [← drained_eq] at hmirrors hcount
  have hfinal := hdraining.atRest hempty
  refine ⟨?_, ?_, ?_⟩
  · rw [hmirrors.queue_eq, hempty]
    rfl
  · have hlimit : eventLimit = 10000 := rfl
    rw [events_started] at hcount
    have hbound := Nat.le_trans hcount (Nat.add_le_add_left hload 1)
    omega
  · rw [(direct.call_spec clock call).1, hmirrors.session_eq]
    rw [hsame, hsource] at hfinal
    exact hfinal

/-! ## Histories -/

/-- Something that happens to a direct session and the archive behind it. -/
inductive Use where
  | call (call : Call) (clock : Clock)
  /-- The observed program records more. -/
  | add (addition : Addition)
  /-- The archive goes offline or comes back. -/
  | setOffline (offline : Bool)

/-- Whether a use can happen: the outcomes of fetches are not dispatched from outside. -/
def Use.IsFair : Use → Prop
  | .call asked _ => asked.event.isUser = true
  | .add _ | .setOffline _ => True

def use (direct : DirectSession Archive) : Use → DirectSession Archive
  | .call asked clock => (direct.call clock asked).1
  | .add addition => { direct with source := direct.source.add addition }
  | .setOffline offline => { direct with source := { direct.source with offline } }

def useAll (direct : DirectSession Archive) (uses : List Use) : DirectSession Archive :=
  uses.foldl use direct

@[simp] theorem useAll_cons (direct : DirectSession Archive) (next : Use) (rest : List Use) :
    direct.useAll (next :: rest) = (direct.use next).useAll rest := rfl

/-- Whether the archive is online whenever a call is made. -/
def Attended (direct : DirectSession Archive) : List Use → Prop
  | [] => True
  | .call asked clock :: rest =>
    direct.source.offline = false ∧ (direct.use (.call asked clock)).Attended rest
  | other :: rest => (direct.use other).Attended rest

/-- A direct session about which nothing is known, and an archive filled by methods. -/
def opening (config : Config) (valid : config.Valid) (additions : List Addition) :
    DirectSession Archive where
  session := .fresh config valid
  source := .ofAdditions additions

/-- At rest, over an archive that files its ops under their keys. -/
structure Ready (direct : DirectSession Archive) : Prop where
  rest : direct.session.AtRest direct.source
  keyed : ∀ run, (direct.source.recordingOf run).Keyed

theorem ready_opening (config : Config) (valid : config.Valid) (additions : List Addition) :
    (opening config valid additions).Ready where
  rest := Session.atRest_fresh config valid _
  keyed := Archive.keyed_ofAdditions additions

theorem ready_useAll (hready : direct.Ready) {uses : List Use}
    (hfair : ∀ use ∈ uses, use.IsFair) (hattended : direct.Attended uses) :
    (direct.useAll uses).Ready := by
  induction uses generalizing direct with
  | nil => exact hready
  | cons next rest ih =>
      rw [List.forall_mem_cons] at hfair
      rw [useAll_cons]
      cases next with
      | call asked clock =>
          obtain ⟨honline, hattended⟩ := hattended
          have huser : asked.event.isUser = true := hfair.1
          refine ih ⟨?_, ?_⟩ hfair.2 hattended
          · rw [use, source_call]
            exact (atRest_call hready.rest hready.keyed honline huser clock).2.2
          · rw [use, source_call]
            exact hready.keyed
      | add addition =>
          exact ih ⟨hready.rest.add addition, Archive.keyed_add hready.keyed addition⟩ hfair.2
            hattended
      | setOffline offline =>
          have hrest : direct.session.AtRest { direct.source with offline } :=
            ⟨hready.rest.backed, hready.rest.shaped, hready.rest.fed, hready.rest.assured⟩
          exact ih ⟨hrest, hready.keyed⟩ hfair.2 hattended

/-- Whatever a direct session went through, and whatever the clock shows, a call on an
archive that is online applies all events before the limit, leaves no mark, and leaves both
windows full. -/
theorem quiet_and_full_after_call (config : Config) (valid : config.Valid)
    (additions : List Addition) (uses : List Use) (hfair : ∀ use ∈ uses, use.IsFair)
    (hattended : (opening config valid additions).Attended uses) (call : Call)
    (clock : Clock) (huser : call.event.isUser = true)
    (honline : ((opening config valid additions).useAll uses).source.offline = false) :
    let direct := (opening config valid additions).useAll uses
    let session := (direct.call clock call).1.session
    (direct.drained call.event clock).queue = [] ∧
      (direct.drained call.event clock).report.events < eventLimit ∧
      (∀ mark, ¬ session.scope.Marked mark) ∧
      ∀ kind, ∀ index ∈ session.scope.visibleRange kind, session.scope.Holds kind index := by
  intro direct session
  have hready : direct.Ready := ready_useAll (ready_opening config valid additions) hfair hattended
  obtain ⟨hqueue, hevents, hrest⟩ := atRest_call hready.rest hready.keyed honline huser clock
  exact ⟨hqueue, hevents, hrest.backed.not_marked, fun kind index => hrest.holds⟩

/-- A clock that shows one more at every reading. -/
def ticking (first : Nat) : Clock := ⟨fun readings => first + readings⟩

/-- A run of one execution is opened, two more are recorded, and the session is polled. -/
def grownBetweenCalls : List Use :=
  [.call .openFirstRun (ticking 0), .add (.execution "a" (Sample.execution "Op1" [])),
    .add (.execution "a" (Sample.execution "Op2" [])), .call .poll (ticking 100)]

theorem visibleRange_after_growth :
    ((((opening { executions := ⟨2, 2⟩, graphExecutions := ⟨2, 2⟩ } (by decide)
      [.run "a" 1, .execution "a" (Sample.execution "Op0" [])]).useAll grownBetweenCalls).call
        (ticking 200) (.dispatch (.scrollRight .executions))).1.session.scope.visibleRange .executions) =
      ⟨1, 3⟩ := by
  cbv

/-- Then the window moves on to what was recorded last, and is full. -/
theorem full_after_growth_and_scroll :
    let direct := (opening { executions := ⟨2, 2⟩, graphExecutions := ⟨2, 2⟩ } (by decide)
      [.run "a" 1, .execution "a" (Sample.execution "Op0" [])]).useAll grownBetweenCalls
    let final := direct.drained (.scrollRight .executions) (ticking 200)
    let session := (direct.call (ticking 200) (.dispatch (.scrollRight .executions))).1.session
    final.queue = [] ∧ final.report.events < eventLimit ∧ (∀ mark, ¬ session.scope.Marked mark) ∧
      session.scope.visibleRange .executions = ⟨1, 3⟩ ∧ session.scope.Holds .executions 1 ∧
      session.scope.Holds .executions 2 := by
  intro direct final session
  have hattended : (opening { executions := ⟨2, 2⟩, graphExecutions := ⟨2, 2⟩ } (by decide)
      [.run "a" 1, .execution "a" (Sample.execution "Op0" [])]).Attended grownBetweenCalls := by
    simp [grownBetweenCalls, Attended, use, source_call, Archive.offline_add, opening,
      Archive.offline_ofAdditions]
  have honline : direct.source.offline = false := by
    simp [direct, grownBetweenCalls, useAll, use, source_call, Archive.offline_add, opening,
      Archive.offline_ofAdditions]
  have hvisible : session.scope.visibleRange .executions = ⟨1, 3⟩ := visibleRange_after_growth
  obtain ⟨hqueue, hevents, hnone, hfull⟩ := quiet_and_full_after_call _ (by decide) _
    grownBetweenCalls (by simp [grownBetweenCalls, Use.IsFair, Call.event, Event.isUser])
    hattended (.dispatch (.scrollRight .executions)) (ticking 200) rfl honline
  have hone : 1 ∈ session.scope.visibleRange .executions := by
    rw [hvisible]
    decide
  have htwo : 2 ∈ session.scope.visibleRange .executions := by
    rw [hvisible]
    decide
  exact ⟨hqueue, hevents, hnone, hvisible, hfull .executions 1 hone, hfull .executions 2 htwo⟩

end DirectSession

end TraceViewer
