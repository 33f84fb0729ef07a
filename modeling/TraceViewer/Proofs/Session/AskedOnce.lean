import TraceViewer.Proofs.Session.Pursuit
import TraceViewer.Proofs.Session.Selections

/-!
# Nothing is asked for twice

Within a selection a session asks for a piece of data again only once an earlier fetch of it was
answered or failed, and for what it holds not at all (`asked_once`).  The events may be any, in
any order: answers to nothing, answers that come twice, failures of what was never asked for.

Every event pursues the data that it does not answer (`pursues_apply`).  So what is sought stays
so along a selection until it is answered (`answered_of_asked`), and whatever else such changes
preserve is preserved as well (`scope_applyAll`).  Selecting a run starts with a scope that
seeks nothing.

A list of source files that drops a file is left out: the session forgets that the file is being
fetched, and asks for it again when a later list has it.
-/

namespace TraceViewer

namespace Session

variable {session : Session} {steps : List (Event × Nat)} {datum : Datum}

/-! ## What events ask for and answer -/

/-- The data that a session asks for because of an event. -/
def asked (session : Session) (event : Event) (now : Nat) : List Datum :=
  dataOf (Command.queueOf (session.apply event now).2)

/-- The data that an event answers: what a reply for the active run names, if it is accepted or
refused as malformed, and what a fetch for the active run named that failed. -/
def answered (session : Session) (event : Event) (now : Nat) : List Datum :=
  match event with
  | .loaded run reply =>
    if session.activeRun = some run then reply.answers (session.apply event now).2 else []
  | .fetchFailed run request => if session.activeRun = some run then request.data else []
  | _ => []

/-- The listed files of the active run that an event drops from the list. -/
def dropped (session : Session) : Event → List SourceFile
  | .loaded run reply => if session.activeRun = some run then session.scope.dropped reply else []
  | _ => []

/-- The data that events answer one after another. -/
def answeredAlong (session : Session) : List (Event × Nat) → List Datum
  | [] => []
  | step :: rest =>
    session.answered step.1 step.2 ++ (session.apply step.1 step.2).1.answeredAlong rest

/-- The listed files that events drop one after another. -/
def droppedAlong (session : Session) : List (Event × Nat) → List SourceFile
  | [] => []
  | step :: rest => session.dropped step.1 ++ (session.apply step.1 step.2).1.droppedAlong rest

/-- Whether none of some events selects a run. -/
def staysAlong (session : Session) : List (Event × Nat) → Bool
  | [] => true
  | step :: rest => !session.selects step.1 && (session.apply step.1 step.2).1.staysAlong rest

/-- The scope that takes an event up.  It is a new one if the event selects a run. -/
def scopeFor (session : Session) (event : Event) : RunScope :=
  if session.selects event then .fresh session.config session.config_valid else session.scope

/-! ## Single events -/

theorem pursues_inRun (session : Session)
    {change : RunScope → RunId → RunScope × Except ViewError Command}
    (hchange : ∀ run, session.scope.Pursues (change session.scope run).1 []
      (dataOf (Command.queueOf (change session.scope run).2))) :
    session.scope.Pursues (session.inRun change).1.scope []
      (dataOf (Command.queueOf (session.inRun change).2)) := by
  rcases Option.eq_none_or_eq_some session.activeRun with hactive | ⟨run, hactive⟩
  · rw [inRun_of_none hactive]
    exact session.scope.pursues_self
  · rw [inRun_of_some hactive]
    exact hchange run

theorem pursues_changeRun (session : Session) (run : Option RunId) :
    RunScope.Pursues (.fresh session.config session.config_valid)
      (session.changeRun run).1.scope []
      (dataOf (Command.queueOf (session.changeRun run).2)) := by
  let selected : Session :=
    { session with activeRun := run, scope := .fresh session.config session.config_valid }
  exact selected.pursues_inRun fun run => selected.scope.pursues_operate run .refresh

theorem pursues_userStep {result : Session × Except ViewError Command}
    (hstep : session.UserStep result) :
    session.scope.Pursues result.1.scope [] (dataOf (Command.queueOf result.2)) := by
  cases hstep with
  | listing | stick => exact session.scope.pursues_self
  | operate pollOnset operation =>
      exact pursues_inRun { session with pollOnset } fun run =>
        session.scope.pursues_operate run operation
  | click frame => exact session.scope.pursues_elsewhere ..

theorem pursues_settle (session : Session) :
    session.scope.Pursues session.settle.1.scope [] (dataOf session.settle.2.queue) := by
  rcases Option.eq_none_or_eq_some session.activeRun with hactive | ⟨run, hactive⟩
  · rw [settle_of_none hactive]
    exact session.scope.pursues_self
  · rw [settle_of_some hactive]
    exact session.scope.pursues_settle run session.stickyFocus

theorem userStep_of_stays {event : Event} (huser : event.isUser = true)
    (hstays : session.selects event = false) (now : Nat) :
    session.UserStep (session.reduce now event) := by
  rcases session.reduce_user now huser with ⟨run, rfl, _⟩ | hstep
  · cases hstays
  · exact hstep

/-- Whether a reply is accepted, and why it is refused, is up to the scope. -/
theorem answered_loaded {run : RunId} (hactive : session.activeRun = some run) (reply : Reply)
    (now : Nat) :
    session.answered (.loaded run reply) now =
      reply.answers (session.scope.onReply run now reply).2 := by
  rw [Session.answered, if_pos hactive, apply_loaded hactive]
  rcases session.scope.onReply run now reply with ⟨scope, error | ⟨command, grew⟩⟩
  · cases error <;> rfl
  · rfl

theorem pursues_reduce (session : Session) (event : Event) (now : Nat) :
    (session.scopeFor event).Pursues (session.reduce now event).1.scope
      (session.answered event now ++ (session.dropped event).map .file)
      (dataOf (Command.queueOf (session.reduce now event).2)) := by
  cases event with
  | activeRunChanged run => exact session.pursues_changeRun run
  | runsLoaded runs =>
      rw [reduce, scopeFor]
      by_cases hsame : runs.minKey? = session.activeRun
      · have hstays : session.selects (.runsLoaded runs) = false := by simp [selects, hsame]
        rw [if_pos hsame, hstays]
        exact session.scope.pursues_self
      · have hselects : session.selects (.runsLoaded runs) = true := bne_iff_ne.mpr hsame
        rw [if_neg hsame, if_pos hselects]
        let listed : Session := { session with runs, runsLoad := session.runsLoad.finish now }
        exact listed.pursues_changeRun runs.minKey?
  | runsFailed => exact session.scope.pursues_self
  | loaded run reply =>
      by_cases hactive : session.activeRun = some run
      · obtain ⟨hscope, _, hqueue⟩ := reduce_loaded hactive reply now
        rw [answered_loaded hactive, dropped, if_pos hactive, hscope, hqueue]
        exact session.scope.pursues_onReply run now reply
      · rw [reduce_loaded_inactive hactive]
        exact session.scope.pursues_self.mono (by simp)
  | fetchFailed run request =>
      by_cases hactive : session.activeRun = some run
      · rw [reduce_fetchFailed now hactive, answered, if_pos hactive]
        exact (session.scope.pursues_onFetchFailed request).mono fun _ =>
          List.mem_append_left _
      · have hdropped : session.onFetchFailed run request = session := if_neg hactive
        rw [reduce, hdropped]
        exact session.scope.pursues_self.mono (by simp)
  | _ =>
      -- the rest are events of the user that leave the run selected
      refine pursues_userStep (userStep_of_stays ?_ ?_ now)
      · rfl
      · rfl

/-- What an event does to the scope that takes it up, settling included. -/
theorem pursues_apply (session : Session) (event : Event) (now : Nat) :
    (session.scopeFor event).Pursues (session.apply event now).1.scope
      (session.answered event now ++ (session.dropped event).map .file)
      (session.asked event now) := by
  have hreduce := session.pursues_reduce event now
  rw [asked]
  refine apply_induct (motive := fun after queue => (session.scopeFor event).Pursues after.scope
    (session.answered event now ++ (session.dropped event).map .file) (dataOf queue)) hreduce ?_
  rw [dataOf_append]
  exact hreduce.trans (pursues_settle _)

theorem scopeFor_of_stays {event : Event} (hstays : session.selects event = false) :
    session.scopeFor event = session.scope := by
  rw [scopeFor, hstays]
  exact if_neg Bool.false_ne_true

/-! ## Runs of events -/

/-- What every change preserves that pursues the data is preserved while a selection lasts. -/
theorem scope_applyAll {motive : RunScope → Prop}
    (hpursues : ∀ {before after : RunScope} {answered asked : List Datum},
      before.Pursues after answered asked → motive before → motive after)
    (hstays : session.staysAlong steps = true) (hstart : motive session.scope) :
    motive (session.applyAll steps).scope := by
  induction steps generalizing session with
  | nil => exact hstart
  | cons step rest ih =>
      rw [staysAlong, Bool.and_eq_true, Bool.not_eq_true'] at hstays
      have hstep := session.pursues_apply step.1 step.2
      rw [scopeFor_of_stays hstays.1] at hstep
      exact ih hstays.2 (hpursues hstep hstart)

/-- While a selection lasts, what is sought is asked for only after it was answered, or dropped
from the list of files. -/
theorem answered_of_asked {between : List (Event × Nat)} {last : Event × Nat}
    (hstays : session.staysAlong (between ++ [last]) = true)
    (hsought : session.scope.Sought datum)
    (hasked : datum ∈ (session.applyAll between).asked last.1 last.2) :
    datum ∈ session.answeredAlong (between ++ [last]) ∨
      datum ∈ (session.droppedAlong (between ++ [last])).map .file := by
  induction between generalizing session with
  | nil =>
      rw [List.nil_append, staysAlong, Bool.and_eq_true, Bool.not_eq_true'] at hstays
      have hlast := session.pursues_apply last.1 last.2
      rw [scopeFor_of_stays hstays.1] at hlast
      rw [List.nil_append, answeredAlong, droppedAlong, answeredAlong, droppedAlong,
        List.append_nil, List.append_nil, ← List.mem_append]
      exact hlast.asked_new datum hasked hsought
  | cons step rest ih =>
      rw [List.cons_append, staysAlong, Bool.and_eq_true, Bool.not_eq_true'] at hstays
      have hstep := session.pursues_apply step.1 step.2
      rw [scopeFor_of_stays hstays.1] at hstep
      rw [List.cons_append, answeredAlong, droppedAlong, List.map_append, List.mem_append,
        List.mem_append]
      -- it was answered by the first step, or it is sought as before
      by_cases hopen : datum ∈ session.answered step.1 step.2 ++
          (session.dropped step.1).map .file
      · exact (List.mem_append.mp hopen).imp Or.inl Or.inl
      · exact (ih hstays.2 (hstep.sought datum hsought hopen) hasked).imp Or.inr Or.inr

/-- No session is fetching a frame that it holds, whatever it was told. -/
theorem apart_applyAll (hapart : session.scope.Apart) : (session.applyAll steps).scope.Apart := by
  refine applyAll_preserves (motive := fun session => session.scope.Apart)
    (fun session event now hapart => (session.pursues_apply event now).apart ?_) hapart steps
  rw [scopeFor]
  split_ifs
  · exact fun id hmarked => absurd hmarked Std.ExtTreeSet.not_mem_empty
  · exact hapart

theorem held_of_loaded {run : RunId} {reply : Reply} {now : Nat}
    (hactive : session.activeRun = some run)
    (haccepted : (session.apply (.loaded run reply) now).2.isOk = true)
    (hnamed : datum ∈ reply.data) (hother : ∀ file, datum ≠ .file file) :
    (session.apply (.loaded run reply) now).1.scope.Held datum ∧
      datum ∉ session.asked (.loaded run reply) now := by
  rw [asked]
  rw [apply_loaded hactive] at haccepted ⊢
  have hheld := @RunScope.held_onReply session.scope run now reply
  rcases hreply : session.scope.onReply run now reply with ⟨scope, error | ⟨command, grew⟩⟩ <;>
    rw [hreply] at haccepted hheld
  · cases haccepted
  · obtain ⟨hheld, hunasked⟩ := hheld rfl hnamed hother
    -- settling comes after the reply, when the datum is held
    have hsettles := scope.pursues_settle run session.stickyFocus
    refine ⟨hsettles.held datum hheld, fun hasked => ?_⟩
    rw [conclude, Command.queueOf_combine_pair, dataOf_append, List.mem_append] at hasked
    rcases hasked with hasked | hasked
    · exact hunasked hasked
    · exact hsettles.asked_unheld datum hasked hheld

/-! ## Selections -/

/-- What holds of a session that takes up an event, further events of the same selection, and
then a last one. -/
structure AsksOnce (session : Session) (first : Event × Nat) (between : List (Event × Nat))
    (last : Event × Nat) : Prop where
  /-- Data that were asked for are asked for again only once they were answered. -/
  answered : ∀ datum ∈ session.asked first.1 first.2,
    datum ∈ (session.applyAll (first :: between)).asked last.1 last.2 →
      datum ∈ (session.applyAll [first]).answeredAlong (between ++ [last])
  /-- No event asks for anything twice. -/
  asked_nodup : (session.asked first.1 first.2).Nodup
  /-- No fetch names a stack frame twice. -/
  ids_nodup : ∀ run ids,
    .data run (.stackFrames ids) ∈ Command.queueOf (session.apply first.1 first.2).2 → ids.Nodup
  /-- What was loaded is held, unless it is a file, and is not asked for at once. -/
  loaded : ∀ run reply, first.1 = .loaded run reply → session.activeRun = some run →
    (session.apply first.1 first.2).2.isOk = true →
      ∀ datum ∈ reply.data, (∀ file, datum ≠ .file file) →
        (session.applyAll [first]).scope.Held datum ∧ datum ∉ session.asked first.1 first.2
  /-- What is held is not asked for later on. -/
  held : ∀ datum, (session.applyAll [first]).scope.Held datum →
    datum ∉ (session.applyAll (first :: between)).asked last.1 last.2
  /-- No stack frame is being fetched that is held. -/
  apart : (session.applyAll (first :: between)).scope.Apart
  /-- A stack frame that is held is not replaced. -/
  frames : ∀ (id : FrameId) (frame : StackFrame),
    (session.applyAll [first]).scope.frames[id]? = some frame →
      (session.applyAll (first :: between)).scope.frames[id]? = some frame

theorem staysAlong_append {session : Session} {between : List (Event × Nat)} {last : Event × Nat}
    (hstays : session.staysAlong (between ++ [last]) = true) :
    session.staysAlong between = true ∧ (session.applyAll between).selects last.1 = false := by
  induction between generalizing session with
  | nil =>
      rw [List.nil_append, staysAlong, Bool.and_eq_true, Bool.not_eq_true'] at hstays
      exact ⟨rfl, hstays.1⟩
  | cons step rest ih =>
      rw [List.cons_append, staysAlong, Bool.and_eq_true] at hstays
      obtain ⟨hrest, hlast⟩ := ih hstays.2
      exact ⟨Bool.and_eq_true_iff.mpr ⟨hstays.1, hrest⟩, hlast⟩

/-- What is held is not asked for while a selection lasts. -/
theorem not_mem_asked_of_held {between : List (Event × Nat)} {last : Event × Nat}
    (hstays : session.staysAlong (between ++ [last]) = true) (hheld : session.scope.Held datum) :
    datum ∉ (session.applyAll between).asked last.1 last.2 := by
  obtain ⟨hbetween, hlast⟩ := staysAlong_append hstays
  have hreached := scope_applyAll (motive := fun scope => scope.Held datum)
    (fun hstep => hstep.held datum) hbetween hheld
  have hpursues := (session.applyAll between).pursues_apply last.1 last.2
  rw [scopeFor_of_stays hlast] at hpursues
  exact fun hasked => hpursues.asked_unheld datum hasked hreached

theorem applyAll_concat (session : Session) (history : List (Event × Nat)) (last : Event × Nat) :
    session.applyAll (history ++ [last]) = ((session.applyAll history).apply last.1 last.2).1 :=
  List.foldl_append

/-- Within a selection nothing is asked for twice, whatever events come in whatever order, as
long as no list of source files drops a file. -/
theorem asked_once (config : Config) (valid : config.Valid) (history between : List (Event × Nat))
    (first last : Event × Nat)
    (hstays : ((fresh config valid).applyAll (history ++ [first])).staysAlong (between ++ [last]) =
      true)
    (hkept : ((fresh config valid).applyAll (history ++ [first])).droppedAlong
      (between ++ [last]) = []) :
    ((fresh config valid).applyAll history).AsksOnce first between last := by
  have hapart : ((fresh config valid).applyAll history).scope.Apart :=
    apart_applyAll fun id hmarked => absurd hmarked Std.ExtTreeSet.not_mem_empty
  rw [applyAll_concat] at hstays hkept
  generalize (fresh config valid).applyAll history = session at hstays hkept hapart
  have hfirst := session.pursues_apply first.1 first.2
  obtain ⟨hbetween, _⟩ := staysAlong_append hstays
  constructor
  case answered =>
    intro datum hasked hagain
    refine (answered_of_asked hstays (hfirst.asked_sought datum hasked) hagain).resolve_right ?_
    rw [hkept]
    exact List.not_mem_nil
  case asked_nodup => exact hfirst.asked_nodup
  case ids_nodup =>
    intro run ids hfetch
    -- the ids are some of the data that are asked for at once
    have hnodup : (ids.map Datum.frame).Nodup :=
      (List.pairwise_flatMap.mp hfirst.asked_nodup).1 _ hfetch
    exact (List.pairwise_map.mp hnodup).imp fun hne hsame => hne (congrArg Datum.frame hsame)
  case loaded =>
    obtain ⟨event, now⟩ := first
    rintro run reply rfl hactive haccepted datum hnamed hother
    exact held_of_loaded hactive haccepted hnamed hother
  case held => exact fun datum => not_mem_asked_of_held hstays
  case apart => exact apart_applyAll hapart
  case frames =>
    intro id frame hframe
    -- a frame that is held is never replaced, along any steps of the run
    have hreached := scope_applyAll (motive := fun scope => scope.frames[id]? = some frame)
      (fun hstep => hstep.frames id frame) hbetween hframe
    exact hreached

/-- A run of one execution whose record could not be fetched the first time. -/
theorem asked_once_after_failure :
    let session := (fresh {} (by decide)).applyAll [(.activeRunChanged (some "a"), 0)]
    let first := (Event.loaded "a" (.numExecutions 1), 1)
    let failure := (Event.fetchFailed "a" (.executionData ⟨0, 1⟩), 2)
    let last := (Event.refresh, 3)
    session.asked first.1 first.2 = [.record 0] ∧
      (session.applyAll [first]).asked last.1 last.2 = [] ∧
      (session.applyAll [first, failure]).asked last.1 last.2 = [.record 0] ∧
      session.AsksOnce first [failure] last := by
  refine ⟨by decide +kernel, by decide +kernel, by decide +kernel, ?_⟩
  exact asked_once {} (by decide) [(.activeRunChanged (some "a"), 0)] _ _ _ (by decide +kernel)
    (by decide +kernel)

end Session

end TraceViewer
