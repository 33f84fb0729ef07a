import TraceViewer.Sample
import TraceViewer.Proofs.Session.StickyLine

/-!
# Sessions without an active run

Without an active run there is nothing to scroll, to focus or to fetch.  Each handler looks for the
active run by itself: what the user does goes through `inRun`, what arrives is compared with the
run that it is for, and settling is left out.  So an event that does not *wake* the session asks
for nothing and changes nothing that belongs to a run (`onlyNotes_reduce`), and the scope stays the
fresh one that it was when the last run was left.

Only a click looks for no run.  The line comes into focus in whatever scope there is, and stays
there until a run is selected, or none is selected again.  So all that an inactive session can hold
in its scope is the line that was last clicked since the last selection (`lineAlong`), and that is
what it holds (`inactive_applyAll`).
-/

namespace TraceViewer

namespace Event

/-- Whether a session without an active run may ask for something because of an event, or select a
run. -/
def wakes : Event → Bool
  | .runsRequested | .runsLoaded _ | .activeRunChanged _ => true
  | _ => false

/-- The line that an event clicks. -/
def clicked? : Event → Option StackFrame
  | .sourceLineClicked frame => some frame
  | _ => none

theorem eq_of_clicked? {event : Event} {frame : StackFrame}
    (hclicked : event.clicked? = some frame) : event = .sourceLineClicked frame := by
  cases event with
  | sourceLineClicked clicked => rw [Option.some.inj hclicked]
  | _ => cases hclicked

end Event

namespace RunScope

variable {before after : RunScope} {event : Event} {queue : List PendingFetch}

/-- The scope with another line in focus, or none. -/
def withLine (scope : RunScope) (line : Option StackFrame) : RunScope :=
  { scope with sources := { scope.sources with focusLine := line } }

theorem withLine_fresh_iff {config : Config} {valid : config.Valid} {line : Option StackFrame} :
    (fresh config valid).withLine line = fresh config valid ↔ line = none :=
  ⟨congrArg fun scope : RunScope => scope.sources.focusLine, by rintro rfl; rfl⟩

/-- Without an active run, only a click changes anything. -/
theorem eq_of_responds_none (hresponds : Responds none event before after queue)
    (hclicked : event.clicked? = none) : after = before := by
  cases hresponds with
  | rest => rfl
  | click _ frame => cases hclicked

end RunScope

namespace Session

variable {session : Session} {event : Event} {now : Nat}

/-! ## Events that do not wake a session -/

/-- Whether an event changes nothing but what a session notes without any run, when polling starts,
how far the listing has come and whether the line is sticky, and the line that is in focus if the
event clicks one, and asks for nothing. -/
def OnlyNotes (session : Session) (event : Event) (result : Session × Except ViewError Command) :
    Prop :=
  ∃ pollOnset runsLoad stickyFocus, result =
    ({ session with
        pollOnset
        runsLoad
        stickyFocus
        scope := session.scope.withLine (event.clicked?.or session.scope.sources.focusLine) },
      .ok .none)

theorem onlyNotes_of_rest (hclicked : event.clicked? = none) :
    session.OnlyNotes event (session, .ok .none) := by
  refine ⟨session.pollOnset, session.runsLoad, session.stickyFocus, ?_⟩
  rw [hclicked]
  rfl

/-- Every handler but that of clicks looks for the active run. -/
theorem onlyNotes_reduce (hinactive : session.activeRun = none) (hsleeps : event.wakes = false)
    (now : Nat) : session.OnlyNotes event (session.reduce now event) := by
  have hother : ∀ run, session.activeRun ≠ some run := by simp [hinactive]
  cases event with
  | runsRequested | runsLoaded | activeRunChanged => cases hsleeps
  | runsFailed => exact ⟨session.pollOnset, session.runsLoad.fail, session.stickyFocus, rfl⟩
  | stickyFocusSet sticky => exact ⟨session.pollOnset, session.runsLoad, sticky, rfl⟩
  | sourceLineClicked frame => exact ⟨session.pollOnset, session.runsLoad, _, rfl⟩
  | pollStarted =>
      have hpolled : { session with pollOnset := now }.activeRun = none := hinactive
      rw [reduce, refresh, adjustRun, inRun_of_none hpolled]
      exact ⟨now, session.runsLoad, session.stickyFocus, rfl⟩
  | refresh =>
      rw [reduce, refresh, adjustRun, inRun_of_none hinactive]
      exact onlyNotes_of_rest rfl
  -- what is about the run goes nowhere
  | focusByDisplayOffset | graphOpFocused | graphOpInfoRequested =>
      rw [reduce, adjustRun, inRun_of_none hinactive]
      exact onlyNotes_of_rest rfl
  | scrollLeft | scrollRight | scrollToIndex | alertTypeFocusToggled | sourceFileRequested =>
      rw [reduce, inRun_of_none hinactive]
      exact onlyNotes_of_rest rfl
  | loaded run reply =>
      rw [reduce_loaded_inactive (hother run)]
      exact onlyNotes_of_rest rfl
  | fetchFailed run request =>
      have hdropped : session.onFetchFailed run request = session := if_neg (hother run)
      rw [reduce, hdropped]
      exact onlyNotes_of_rest rfl

/-- Without an active run there is nothing to settle. -/
theorem apply_of_inactive (session : Session) (event : Event) (now : Nat)
    (hinactive : (session.reduce now event).1.activeRun = none) :
    (session.apply event now).1 = (session.reduce now event).1 ∧
      ((session.reduce now event).2 = .ok .none → (session.apply event now).2 = .ok .none) := by
  rcases session.apply_cases event now with hsame | ⟨reduced, command, hreduced, hsettled⟩
  · rw [hsame]
    exact ⟨rfl, id⟩
  · rw [hreduced] at hinactive ⊢
    rw [hsettled, settle_of_none hinactive]
    refine ⟨rfl, fun hquiet => ?_⟩
    cases hquiet
    rfl

theorem onlyNotes_apply (hinactive : session.activeRun = none) (hsleeps : event.wakes = false)
    (now : Nat) : session.OnlyNotes event (session.apply event now) := by
  obtain ⟨pollOnset, runsLoad, stickyFocus, hreduced⟩ := onlyNotes_reduce hinactive hsleeps now
  have hstays : (session.reduce now event).1.activeRun = none := by
    rw [hreduced]
    exact hinactive
  obtain ⟨hafter, hquiet⟩ := session.apply_of_inactive event now hstays
  rw [hreduced] at hafter hquiet
  exact ⟨pollOnset, runsLoad, stickyFocus, Prod.ext hafter (hquiet rfl)⟩

/-- A click that no run is active for puts the line into focus all the same.  It is not sticky, for
there is no stack trace. -/
theorem apply_click_of_inactive (hplaced : session.Placed) (hinactive : session.activeRun = none)
    (frame : StackFrame) (now : Nat) :
    session.apply (.sourceLineClicked frame) now =
      ({ session with stickyFocus := false, scope := session.scope.withLine (some frame) },
        .ok .none) := by
  have hframes : session.scope.currentFrames = none := by
    rw [RunScope.currentFrames, RunScope.focusOrigin, hplaced.unfollowed hinactive]
    rfl
  have hclicked : session.onLineClicked frame =
      { session with stickyFocus := false, scope := session.scope.withLine (some frame) } := by
    rw [onLineClicked, hframes]
    rfl
  obtain ⟨hafter, hquiet⟩ := session.apply_of_inactive (.sourceLineClicked frame) now hinactive
  exact Prod.ext (hafter.trans hclicked) (hquiet rfl)

/-! ## What is left in the scope -/

/-- The line in focus after an event, if clicks put lines into focus and selecting a run takes them
away. -/
def lineAfter (session : Session) (line : Option StackFrame) (event : Event) : Option StackFrame :=
  if session.selects event then none else event.clicked?.or line

/-- The line in focus after events, if only clicks put lines into focus and only selecting a run
takes them away: the last that was clicked since the last selection. -/
def lineAlong (session : Session) (line : Option StackFrame) :
    List (Event × Nat) → Option StackFrame
  | [] => line
  | step :: rest =>
    (session.apply step.1 step.2).1.lineAlong (session.lineAfter line step.1) rest

/-- Whether there is nothing in the scope of a session that was made with a configuration, but for a
line, unless a run is active. -/
structure Blank (config : Config) (valid : config.Valid) (line : Option StackFrame)
    (session : Session) : Prop where
  config_eq : session.config = config
  scope_eq : session.activeRun = none → session.scope = (RunScope.fresh config valid).withLine line

section Blank

variable {config : Config} {valid : config.Valid} {line : Option StackFrame}

theorem blank_reduce (hblank : session.Blank config valid line) (event : Event) (now : Nat)
    (hinactive : (session.reduce now event).1.activeRun = none) :
    (session.reduce now event).1.scope =
      (RunScope.fresh config valid).withLine (session.lineAfter line event) := by
  obtain ⟨rfl, hscope⟩ := hblank
  have hresponds := session.responds_reduce event now
  rw [hinactive] at hresponds
  rw [lineAfter]
  cases hselects : session.selects event with
  | true =>
      -- a click selects no run
      have hclicked : event.clicked? = none := by
        cases event with
        | sourceLineClicked => cases hselects
        | _ => rfl
      rw [RunScope.eq_of_responds_none hresponds hclicked, scopeFor, if_pos hselects, if_pos rfl]
      rfl
  | false =>
      rw [activeRun_of_not_selects hselects] at hinactive
      rw [scopeFor_of_stays hselects, hscope hinactive] at hresponds
      rw [if_neg Bool.false_ne_true]
      cases hclicked : event.clicked? with
      | none => exact RunScope.eq_of_responds_none hresponds hclicked
      | some frame =>
          -- the line is the only thing that a click changes in the scope
          rw [Event.eq_of_clicked? hclicked]
          change session.scope.setFocusLine frame = _
          rw [hscope hinactive]
          rfl

theorem blank_apply (hblank : session.Blank config valid line) (event : Event) (now : Nat) :
    (session.apply event now).1.Blank config valid (session.lineAfter line event) := by
  refine ⟨(session.reshapes_apply event now).config_eq.trans hblank.config_eq, fun hinactive => ?_⟩
  rw [activeRun_apply] at hinactive
  rw [(session.apply_of_inactive event now hinactive).1]
  exact blank_reduce hblank event now hinactive

theorem blank_applyAll (hblank : session.Blank config valid line) (history : List (Event × Nat)) :
    (session.applyAll history).Blank config valid (session.lineAlong line history) := by
  induction history generalizing session line with
  | nil => exact hblank
  | cons step rest ih => exact ih (blank_apply hblank step.1 step.2)

end Blank

/-- Whatever came before, there is nothing in the scope of a session without an active run but the
line that was clicked since the last selection.  Unless an event wakes it, the session asks for
nothing and only takes a note, and if the event is a click, of the line. -/
theorem inactive_applyAll (config : Config) (valid : config.Valid) (history : List (Event × Nat)) :
    let session := (fresh config valid).applyAll history
    let line := (fresh config valid).lineAlong none history
    session.activeRun = none →
      session.scope = (RunScope.fresh config valid).withLine line ∧
      (session.scope = RunScope.fresh config valid ↔ line = none) ∧
      (∀ event now, event.wakes = false → session.OnlyNotes event (session.apply event now)) ∧
      ∀ frame now, session.apply (.sourceLineClicked frame) now =
        ({ session with stickyFocus := false, scope := session.scope.withLine (some frame) },
          .ok .none) := by
  intro session line hinactive
  have hblank : (fresh config valid).Blank config valid none := ⟨rfl, fun _ => rfl⟩
  -- the lines clicked since the run was left are all that is told apart
  have hscope : session.scope = (RunScope.fresh config valid).withLine line :=
    (blank_applyAll hblank history).scope_eq hinactive
  refine ⟨hscope, ?_, fun event now hsleeps => onlyNotes_apply hinactive hsleeps now, ?_⟩
  · rw [hscope]
    exact RunScope.withLine_fresh_iff
  · exact apply_click_of_inactive (placed_applyAll config valid history) hinactive

/-- A line was clicked in a run that was left, and another one since.  Only the latter is in the
scope.  The window over the executions, of which the run had some, does not scroll. -/
theorem inactive_applyAll_after_leaving :
    let clicked := Sample.frame "model.py" 9 "call"
    let history : List (Event × Nat) :=
      [(.activeRunChanged (some "a"), 0), (.loaded "a" (.numExecutions 100), 1),
        (.sourceLineClicked (Sample.frame "main.py" 3 "main"), 2), (.activeRunChanged none, 3),
        (.sourceLineClicked clicked, 4)]
    let session := (fresh {} (by decide)).applyAll history
    session.activeRun = none ∧ (fresh {} (by decide)).lineAlong none history = some clicked ∧
      session.scope = (RunScope.fresh {} (by decide)).withLine (some clicked) ∧
      session.scope ≠ RunScope.fresh {} (by decide) ∧
      (Event.scrollRight .executions).wakes = false ∧
      (session.apply (.scrollRight .executions) 5).2 = .ok .none := by
  intro clicked history session
  have hinactive : session.activeRun = none := by decide +kernel
  have hline : (fresh {} (by decide)).lineAlong none history = some clicked := by decide +kernel
  obtain ⟨hscope, hfresh, hsleeps, -⟩ := inactive_applyAll {} (by decide) history hinactive
  rw [hline] at hscope hfresh
  obtain ⟨_, _, _, hscrolled⟩ := hsleeps (.scrollRight .executions) 5 rfl
  exact ⟨hinactive, hline, hscope, mt hfresh.mp (Option.some_ne_none clicked), rfl,
    congrArg Prod.snd hscrolled⟩

/-- A click is not ignored while no run is active. -/
theorem not_always_fresh_without_run :
    ¬ ∀ (config : Config) (valid : config.Valid) (history : List (Event × Nat)),
      let session := (fresh config valid).applyAll history
      session.activeRun = none →
        session.scope = RunScope.fresh config valid ∧
          ∀ event now, event.wakes = false → (session.apply event now).2 = .ok .none := by
  intro hinert
  have hfresh := (hinert {} (by decide)
    [(.sourceLineClicked (Sample.frame "main.py" 3 "main"), 0)] rfl).1
  have hline := congrArg (fun scope : RunScope => scope.sources.focusLine) hfresh
  cases hline

end Session

end TraceViewer
