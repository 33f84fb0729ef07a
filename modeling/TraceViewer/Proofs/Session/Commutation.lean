import TraceViewer.Proofs.Session.InStep
import TraceViewer.Proofs.Session.Refusals
import TraceViewer.Proofs.Session.SequenceHistories
import TraceViewer.Proofs.Session.Wants

/-!
# Replies for the two sequences commute

A reply that reports the total or a page of one sequence, and one that does so for the
other, may arrive in either order: the session ends up the same, each is accepted or refused
as it would be in the other order, and the same fetches are made (`replies_commute`).  But a
fetch may be made at the first reply in one order and at the second in the other.

A reply for the graph executions changes nothing that settling looks at.  A reply for the
executions may: it can give the first execution the focus, and it can make an execution that
has the focus one of the sequence.  It never takes an origin away, though, and so what is
wanted before the reply is part of what is wanted after it (`partOf_wants_redirect`).
Settling before the reply as well as after it asks for the same, in two parts
(`settle_redirect_settle`).  A refused reply changes nothing that settling looks at either.

So the orders agree whether the replies are accepted or not (`commutes_of_redirects`), one lemma
for each case.
-/

namespace TraceViewer

/-- The sequence whose total or page a reply reports. -/
def Reply.sequence? : Reply → Option SequenceKind
  | .numExecutions _ | .executionDigests _ => some .executions
  | .numGraphExecutions _ | .graphExecutions _ => some .graphExecutions
  | _ => none

/-! ## What is asked for in two parts -/

/-- Nothing is asked for twice, and nothing is left out, when one of two parts asks. -/
theorem Falls.count_add {α : Type} {empty whole first second : α}
    (hfalls : Falls empty whole first second) (queue : α → List PendingFetch)
    (hempty : queue empty = []) (fetch : PendingFetch) :
    (queue first).count fetch + (queue second).count fetch = (queue whole).count fetch := by
  rcases hfalls with ⟨rfl, rfl⟩ | ⟨rfl, rfl⟩ <;> simp [hempty]

namespace Wants

variable {whole first second : Wants}

/-- Both parts together ask for the whole. -/
theorem Splits.queue_perm (hsplits : whole.Splits first second) (run : RunId) :
    ((first.command run).queue ++ (second.command run).queue).Perm
      (whole.command run).queue := by
  rw [List.perm_iff_count]
  intro fetch
  have horigin := hsplits.origin.count_add
    (fun origin => origin.toList.map fun origin => .data run origin.request) rfl fetch
  have hframes := hsplits.frames.count_add
    (fun frames => if frames = [] then [] else [.data run (.stackFrames frames)]) rfl fetch
  have hfile := hsplits.file.count_add
    (fun file => file.toList.map fun file => .data run (.sourceFile file)) rfl fetch
  simp only [queue_command, List.count_append]
  omega

end Wants

namespace RunScope

variable {scope : RunScope} {run : RunId} {digests : Timeline ExecutionDigest}
  {location : Option CodeLocation}

/-! ## Graph executions -/

/-- Settling does not look at the graph executions. -/
theorem settle_withGraphExecutions (scope : RunScope) (graphExecutions : Timeline GraphExecution)
    (run : RunId) (sticky : Bool) :
    { scope with graphExecutions }.settle run sticky =
      ({ (scope.settle run sticky).1 with graphExecutions }, (scope.settle run sticky).2) := by
  have hwants : { scope with graphExecutions }.wants = scope.wants := rfl
  have hfollowed : { scope with graphExecutions }.followed sticky =
      { scope.followed sticky with graphExecutions } := by
    rw [followed, followed]
    split_ifs
    · rw [followLastFrame_eq_elim, followLastFrame_eq_elim]
      change scope.target.elim _ _ = _
      cases scope.target <;> rfl
    · rfl
  rw [settle_eq_grant, settle_eq_grant, hwants, hfollowed]
  rfl

/-- A reply for the graph executions changes them only, and looks at nothing else. -/
theorem onReply_graphExecutions {reply : Reply}
    (hreply : reply.sequence? = some .graphExecutions) (scope : RunScope) (run : RunId)
    (now : Nat) :
    ∃ graphExecutions result, ∀ other : RunScope, other.graphExecutions = scope.graphExecutions →
      other.onReply run now reply = ({ other with graphExecutions }, result) := by
  cases reply with
  | numGraphExecutions total =>
      refine ⟨(scope.graphExecutions.onTotal run total now).1,
        (scope.graphExecutions.onTotal run total now).2, fun other hsame => ?_⟩
      rw [onReply, hsame]
  | graphExecutions batch =>
      refine ⟨(scope.graphExecutions.onPage run batch now).1,
        (scope.graphExecutions.onPage run batch now).2, fun other hsame => ?_⟩
      rw [onReply, hsame]
  | _ => cases hreply

/-! ## Executions -/

/-- The scope with other digests, and another location followed. -/
def redirect (scope : RunScope) (digests : Timeline ExecutionDigest)
    (location : Option CodeLocation) : RunScope :=
  { scope.withDigests digests with location }

/-- What a reply for the executions never does: it takes no origin and no execution away. -/
structure Redirects (scope : RunScope) (digests : Timeline ExecutionDigest)
    (location : Option CodeLocation) : Prop where
  focusOrigin : ∀ origin, scope.focusOrigin = some origin →
    (scope.redirect digests location).focusOrigin = some origin
  numItems_le : scope.executions.digests.numItems ≤ digests.numItems

theorem redirect_grant (scope : RunScope) (wants : Wants) (digests : Timeline ExecutionDigest)
    (location : Option CodeLocation) :
    (scope.grant wants).redirect digests location =
      (scope.redirect digests location).grant wants := by
  obtain ⟨origin, frames, file⟩ := wants
  cases origin with
  | none => rfl
  | some origin => cases origin <;> rfl

/-- What is wanted is wanted also after the redirection, which may want more. -/
theorem partOf_wants_redirect (hredirects : scope.Redirects digests location) :
    scope.wants.PartOf (scope.redirect digests location).wants where
  origin := by
    change scope.wantedOrigin = none ∨ scope.wantedOrigin = (scope.redirect _ _).wantedOrigin
    rcases hwanted : scope.wantedOrigin with _ | origin
    · exact Or.inl rfl
    · right
      rw [wantedOrigin, Option.filter_eq_some_iff, Bool.and_eq_true] at hwanted
      obtain ⟨horigin, hreaches, hunsought⟩ := hwanted
      -- the sequence only grows, so what was in reach stays there
      have hreaches : (scope.redirect digests location).reaches origin = true := by
        cases origin with
        | execution index =>
            rw [reaches, decide_eq_true_eq] at hreaches ⊢
            exact Nat.lt_of_lt_of_le hreaches hredirects.numItems_le
        | graphOpCreation key => rfl
      have hunsought : (!(scope.redirect digests location).seeks origin) = true := by
        cases origin <;> exact hunsought
      rw [wantedOrigin, hredirects.focusOrigin origin horigin, Option.filter_some, hreaches,
        hunsought]
      rfl
  frames := by
    change scope.missingFrames = [] ∨ scope.missingFrames = (scope.redirect _ _).missingFrames
    rcases horigin : scope.focusOrigin with _ | origin
    · exact Or.inl (by rw [missingFrames, horigin]; rfl)
    · right
      rw [missingFrames, missingFrames, horigin, hredirects.focusOrigin origin horigin]
      cases origin <;> rfl
  file := Or.inr rfl

/-- A line that follows the trace before a redirection may follow it again afterwards. -/
theorem followed_redirect (hredirects : scope.Redirects digests location) (sticky : Bool) :
    ((scope.followed sticky).redirect digests location).followed sticky =
      (scope.redirect digests location).followed sticky := by
  cases sticky with
  | false => rfl
  | true =>
      rcases horigin : scope.focusOrigin with _ | origin
      · -- without an origin there is no trace to follow
        have hstays : scope.followed true = scope := by
          change scope.followLastFrame = scope
          rw [followLastFrame_eq_elim, target, currentFrames, horigin]
          rfl
        rw [hstays]
      · -- the trace is the same before and after
        have htarget : (scope.redirect digests location).target = scope.target := by
          rw [target, target, currentFrames, currentFrames, horigin,
            hredirects.focusOrigin origin horigin]
          cases origin <;> rfl
        have hcommutes : (scope.redirect digests location).followed true =
            (scope.followed true).redirect digests location := by
          change (scope.redirect digests location).followLastFrame =
            scope.followLastFrame.redirect digests location
          rw [followLastFrame_eq_elim, followLastFrame_eq_elim, htarget]
          cases scope.target <;> rfl
        rw [← hcommutes, followed_followed]

/-- Settling before a redirection and after it does what settling after it does. -/
theorem settle_redirect_settle (hredirects : scope.Redirects digests location) (run : RunId)
    (sticky : Bool) :
    let early := scope.settle run sticky
    let late := (early.1.redirect digests location).settle run sticky
    let once := (scope.redirect digests location).settle run sticky
    late.1 = once.1 ∧ (early.2.queue ++ late.2.queue).Perm once.2.queue := by
  intro early late once
  have hearly : early = ((scope.followed sticky).grant scope.wants, scope.wants.command run) :=
    scope.settle_eq_grant run sticky
  have honce : once = (((scope.redirect digests location).followed sticky).grant
      (scope.redirect digests location).wants,
      (scope.redirect digests location).wants.command run) :=
    settle_eq_grant _ run sticky
  -- the scope that settles for the second time
  let middle := ((scope.followed sticky).redirect digests location).grant scope.wants
  have hmiddle : early.1.redirect digests location = middle := by
    rw [hearly]
    exact redirect_grant ..
  have hwants : ((scope.followed sticky).redirect digests location).wants =
      (scope.redirect digests location).wants := by
    rw [← wants_followed _ sticky, followed_redirect hredirects, wants_followed]
  have hsplits : (scope.redirect digests location).wants.Splits scope.wants middle.wants := by
    rw [← hwants]
    exact splits_wants_grant (hwants ▸ partOf_wants_redirect hredirects)
  have hlate : late = ((((scope.redirect digests location).followed sticky).grant scope.wants).grant
      middle.wants, middle.wants.command run) := by
    change (early.1.redirect digests location).settle run sticky = _
    rw [hmiddle, settle_eq_grant, followed_grant, followed_redirect hredirects]
  rw [hlate, honce, hearly]
  exact ⟨grant_grant hsplits _, hsplits.queue_perm run⟩

/-- A redirection that changes neither the origin nor the total makes no difference to
settling. -/
theorem settle_redirect
    (horigin : (scope.redirect digests location).focusOrigin = scope.focusOrigin)
    (hnumItems : digests.numItems = scope.executions.digests.numItems) (run : RunId)
    (sticky : Bool) :
    (scope.redirect digests location).settle run sticky =
      ((scope.settle run sticky).1.redirect digests location, (scope.settle run sticky).2) := by
  have hids : (scope.redirect digests location).originFrameIds = scope.originFrameIds := by
    funext origin
    cases origin <;> rfl
  -- neither the end of the sequence nor what is sought has changed
  have hneeded : ∀ origin, ((scope.redirect digests location).reaches origin &&
      !(scope.redirect digests location).seeks origin) =
        (scope.reaches origin && !scope.seeks origin) := by
    intro origin
    cases origin with
    | execution index =>
        change (decide (index < digests.numItems) && _) = _
        rw [hnumItems]
        rfl
    | graphOpCreation key => rfl
  have hwants : (scope.redirect digests location).wants = scope.wants := by
    rw [wants, wants, wantedOrigin, wantedOrigin, missingFrames, missingFrames, horigin, hids,
      funext hneeded]
    rfl
  have hcommutes : (scope.redirect digests location).followed sticky =
      (scope.followed sticky).redirect digests location := by
    have htarget : (scope.redirect digests location).target = scope.target := by
      have hframesOf : (scope.redirect digests location).framesOf = scope.framesOf := by
        funext origin
        rw [framesOf, hids]
        rfl
      rw [target, target, currentFrames, currentFrames, horigin, hframesOf]
      rfl
    rw [followed, followed]
    split_ifs
    · rw [followLastFrame_eq_elim, followLastFrame_eq_elim, htarget]
      cases scope.target <;> rfl
    · rfl
  rw [settle_eq_grant, settle_eq_grant, hwants, hcommutes, redirect_grant]

theorem focusOrigin_redirect (hfocus : digests.focus = scope.executions.digests.focus) :
    (scope.redirect digests scope.location).focusOrigin = scope.focusOrigin := by
  rw [focusOrigin, focusOrigin, ← hfocus]
  rfl

/-- Other digests with the same focus take no origin away. -/
theorem redirects_of_focus (hfocus : digests.focus = scope.executions.digests.focus)
    (hnumItems : scope.executions.digests.numItems ≤ digests.numItems) :
    scope.Redirects digests scope.location where
  focusOrigin := by
    intro origin horigin
    rw [focusOrigin_redirect hfocus, horigin]
  numItems_le := hnumItems

/-- Giving the focus to the first execution takes no origin away: an execution that has none
is no origin. -/
theorem redirects_focusFirst (hnone : scope.executions.digests.focus = none)
    (hnumItems : scope.executions.digests.numItems ≤ digests.numItems) :
    scope.Redirects (digests.setFocus (some 0)) (some (scope.location.getD .execution)) where
  focusOrigin := by
    intro origin horigin
    rw [focusOrigin] at horigin
    cases hlocation : scope.location with
    | none =>
        rw [hlocation] at horigin
        cases horigin
    | some location =>
        cases location with
        | execution =>
            rw [hlocation, Option.bind_some, hnone] at horigin
            cases horigin
        | graphOpCreation =>
            rw [hlocation] at horigin
            exact horigin
  numItems_le := hnumItems

/-- A reply for the executions replaces the digests and may redirect the focus, and it looks
at nothing else.  A refused one changes neither the origin nor the total. -/
theorem onReply_executions {reply : Reply} (hreply : reply.sequence? = some .executions)
    (hvalid : (scope.geometry .executions).Valid) (run : RunId) (now : Nat) :
    ∃ digests location result,
      (∀ other : RunScope, other.executions.digests = scope.executions.digests →
        other.location = scope.location →
          other.onReply run now reply = (other.redirect digests location, result)) ∧
      scope.Redirects digests location ∧
      ∀ error, result = .error error →
        (scope.redirect digests location).focusOrigin = scope.focusOrigin ∧
          digests.numItems = scope.executions.digests.numItems := by
  have hsame : ∀ (other : RunScope) (digests : Timeline ExecutionDigest),
      other.location = scope.location →
        other.withDigests digests = other.redirect digests scope.location := by
    intro other digests hlocation
    rw [← hlocation]
    rfl
  cases reply with
  | numExecutions total =>
      -- a total does not move the focus, unless there was none
      have hfocus := (scope.executions.digests.effort_onTotal run total now).1
      have hnumItems := (scope.executions.digests.evolves_onTotal run total now).numItems_le
      rcases htotal : scope.executions.digests.onTotal run total now with
        ⟨digests, error | result⟩ <;> rw [htotal] at hfocus hnumItems
      · refine ⟨digests, scope.location, .error error, fun other hdigests hlocation => ?_,
          redirects_of_focus hfocus hnumItems, fun _ _ => ⟨focusOrigin_redirect hfocus, ?_⟩⟩
        · rw [onReply, hdigests, htotal, ← hsame other digests hlocation]
        · exact (Timeline.intact_onTotal (PagedView.fits_of_valid hvalid)
            htotal).sequence.numItems_eq
      · by_cases hfirst : 0 < total ∧ digests.focus = none
        · refine ⟨digests.setFocus (some 0), some (scope.location.getD .execution), .ok result,
            fun other hdigests hlocation => ?_,
            redirects_focusFirst (hfocus ▸ hfirst.2) hnumItems, by simp⟩
          rw [onReply, hdigests, htotal, ← hlocation]
          dsimp only
          rw [focusFirst, if_pos (show _ ∧ (other.withDigests digests).executions.digests.focus =
            none from hfirst)]
          rfl
        · refine ⟨digests, scope.location, .ok result, fun other hdigests hlocation => ?_,
            redirects_of_focus hfocus hnumItems, by simp⟩
          rw [onReply, hdigests, htotal, ← hsame other digests hlocation]
          dsimp only
          rw [focusFirst, if_neg (show ¬ (_ ∧
            (other.withDigests digests).executions.digests.focus = none) from hfirst)]
  | executionDigests batch =>
      have hfocus := (scope.executions.digests.effort_onPage run batch now).1
      have hnumItems := (scope.executions.digests.evolves_onPage run batch now).numItems_le
      rcases hpage : scope.executions.digests.onPage run batch now with ⟨digests, result⟩
      rw [hpage] at hfocus hnumItems
      refine ⟨digests, scope.location, result, fun other hdigests hlocation => ?_,
        redirects_of_focus hfocus hnumItems, ?_⟩
      · rw [onReply, hdigests, hpage, ← hsame other digests hlocation]
      · rintro error rfl
        exact ⟨focusOrigin_redirect hfocus,
          (Timeline.intact_onPage hvalid hpage).sequence.numItems_eq⟩
  | _ => cases hreply

end RunScope

/-! ## Sessions -/

namespace Session

variable {session : Session} {run : RunId} {reply : Reply} {now : Nat}

/-- Whether an event was accepted, and if not, why. -/
def verdict (result : Except ViewError Command) : Except ViewError Unit := result.map fun _ => ()

/-- What two orders of the same replies agree on: the session they end in, the verdict on each
reply, and the fetches made in all. -/
structure Agrees (first second first' second' : Session × Except ViewError Command) : Prop where
  session_eq : second.1 = second'.1
  verdict_fst : verdict first.2 = verdict second'.2
  verdict_snd : verdict second.2 = verdict first'.2
  fetches : (Command.queueOf first.2 ++ Command.queueOf second.2).Perm
    (Command.queueOf first'.2 ++ Command.queueOf second'.2)

/-! ### The active run -/

/-- Settling leaves what the replies change as they left it. -/
theorem conclude_spec (session : Session) (run : RunId) (now : Nat) (scope : RunScope)
    (result : Except ViewError (Command × Bool)) :
    let concluded := (session.conclude run now (scope, result)).1.scope
    concluded.executions.digests = scope.executions.digests ∧ concluded.location = scope.location ∧
      concluded.graphExecutions = scope.graphExecutions := by
  rcases result with error | ⟨command, grew⟩
  · exact ⟨rfl, rfl, rfl⟩
  · obtain ⟨_, _, _, _, _, hsettled⟩ := scope.settle_eq run session.stickyFocus
    dsimp only [conclude]
    rw [hsettled]
    exact ⟨rfl, rfl, rfl⟩

section Orders

variable {digests : Timeline ExecutionDigest} {location : Option CodeLocation}
  {graph : Timeline GraphExecution} {result result' : Except ViewError (Command × Bool)}

/-- Whether the orders agree in which a session takes up a redirection and other graph
executions. -/
def Commutes (session : Session) (run : RunId) (now : Nat) (digests : Timeline ExecutionDigest)
    (location : Option CodeLocation) (graph : Timeline GraphExecution)
    (result result' : Except ViewError (Command × Bool)) : Prop :=
  let first := session.conclude run now (session.scope.redirect digests location, result)
  let first' := session.conclude run now ({ session.scope with graphExecutions := graph }, result')
  Agrees first (first.1.conclude run now ({ first.1.scope with graphExecutions := graph }, result'))
    first' (first'.1.conclude run now (first'.1.scope.redirect digests location, result))

/-- A redirection that was refused makes no difference to settling. -/
theorem commutes_of_refused {error : ViewError} {asked : Command × Bool}
    (horigin : (session.scope.redirect digests location).focusOrigin = session.scope.focusOrigin)
    (hnumItems : digests.numItems = session.scope.executions.digests.numItems) :
    session.Commutes run now digests location graph (.error error) (.ok asked) := by
  let sticky := session.stickyFocus
  have hsame := session.scope.settle_redirect horigin hnumItems run sticky
  have hearlier := session.scope.settle_withGraphExecutions graph run sticky
  have hlater :=
    (session.scope.redirect digests location).settle_withGraphExecutions graph run sticky
  rw [hsame] at hlater
  simp only [Commutes, conclude]
  rw [hearlier, hlater]
  exact ⟨rfl, rfl, rfl, .of_eq (List.append_nil _).symm⟩

/-- When the graph executions are refused, the scope settles only after the redirection. -/
theorem commutes_of_graph_refused {error : ViewError} {asked : Command × Bool} :
    session.Commutes run now digests location graph (.ok asked) (.error error) := by
  let redirected := session.scope.redirect digests location
  have hlater := redirected.settle_withGraphExecutions graph run session.stickyFocus
  simp only [Commutes, conclude]
  change Agrees _ _ _ ({ session with
    scope := (RunScope.settle { redirected with graphExecutions := graph } run
      session.stickyFocus).1
    lastNonEmptyPoll := _ }, .ok (.combine [asked.1,
      (RunScope.settle { redirected with graphExecutions := graph } run session.stickyFocus).2]))
  rw [hlater]
  exact ⟨rfl, rfl, rfl, .of_eq (List.append_nil _)⟩

/-- The redirection comes between two rounds of settling, or before the first. -/
theorem commutes_of_accepted (hredirects : session.scope.Redirects digests location)
    (asked asked' : Command × Bool) :
    session.Commutes run now digests location graph (.ok asked) (.ok asked') := by
  let sticky := session.stickyFocus
  let redirected := session.scope.redirect digests location
  let once := (redirected.settle run sticky).1
  let early := (session.scope.settle run sticky).1
  let late := (early.redirect digests location).settle run sticky
  obtain ⟨hscope, hfetches⟩ := session.scope.settle_redirect_settle hredirects run sticky
  -- the graph execution comes when all is settled, so nothing is asked for then
  have hquiet := RunScope.settle_of_settled (redirected.settled_settle run sticky) run
  have hearlier := session.scope.settle_withGraphExecutions graph run sticky
  have honce := once.settle_withGraphExecutions graph run sticky
  have hlate := (early.redirect digests location).settle_withGraphExecutions graph run sticky
  rw [hquiet] at honce
  obtain ⟨command, grew⟩ := asked
  obtain ⟨command', grew'⟩ := asked'
  simp only [Commutes, conclude]
  rw [hearlier]
  change Agrees _ ({ session with
    scope := (RunScope.settle { once with graphExecutions := graph } run sticky).1
    lastNonEmptyPoll := _ }, .ok (.combine [command',
      (RunScope.settle { once with graphExecutions := graph } run sticky).2])) _
    ({ session with
      scope := (RunScope.settle { early.redirect digests location with graphExecutions := graph }
        run sticky).1
      lastNonEmptyPoll := _ }, .ok (.combine [command,
        (RunScope.settle { early.redirect digests location with graphExecutions := graph }
          run sticky).2]))
  rw [honce, hlate]
  refine ⟨?_, rfl, rfl, ?_⟩
  · change ({ session with
        scope := { once with graphExecutions := graph }
        lastNonEmptyPoll :=
          if grew' then now else if grew then now else session.lastNonEmptyPoll } : Session) =
      { session with
        scope := { late.1 with graphExecutions := graph }
        lastNonEmptyPoll :=
          if grew then now else if grew' then now else session.lastNonEmptyPoll }
    rw [show late.1 = once from hscope]
    cases grew <;> cases grew' <;> rfl
  · change (Command.queueOf (.ok (.combine [command, (redirected.settle run sticky).2])) ++
        Command.queueOf (.ok (.combine [command', .none]))).Perm
      (Command.queueOf (.ok (.combine [command', (session.scope.settle run sticky).2])) ++
        Command.queueOf (.ok (.combine [command, late.2])))
    change (_ ++ late.2.queue).Perm (redirected.settle run sticky).2.queue at hfetches
    rw [List.perm_iff_count] at hfetches ⊢
    intro fetch
    have hcount := hfetches fetch
    simp only [Command.queueOf_combine_pair, List.count_append, Command.queue_none,
      List.count_nil] at hcount ⊢
    omega

/-- A redirection and other graph executions commute, whether they are accepted or not. -/
theorem commutes_of_redirects (hredirects : session.scope.Redirects digests location)
    (hrefused : ∀ error, result = .error error →
      (session.scope.redirect digests location).focusOrigin = session.scope.focusOrigin ∧
        digests.numItems = session.scope.executions.digests.numItems) :
    session.Commutes run now digests location graph result result' := by
  rcases result with error | asked <;> rcases result' with error' | asked'
  · exact ⟨rfl, rfl, rfl, .refl _⟩
  · obtain ⟨horigin, hnumItems⟩ := hrefused error rfl
    exact commutes_of_refused horigin hnumItems
  · exact commutes_of_graph_refused
  · exact commutes_of_accepted hredirects asked asked'

end Orders

/-- For the active run the order makes no difference. -/
theorem agrees_of_active (hshaped : session.Shaped) (hactive : session.activeRun = some run)
    {ours theirs : Reply} (hours : ours.sequence? = some .executions)
    (htheirs : theirs.sequence? = some .graphExecutions) (now : Nat) :
    let first := session.apply (.loaded run ours) now
    let first' := session.apply (.loaded run theirs) now
    Agrees first (first.1.apply (.loaded run theirs) now)
      first' (first'.1.apply (.loaded run ours) now) := by
  obtain ⟨digests, location, result, hdigests, hredirects, hrefused⟩ :=
    session.scope.onReply_executions hours (hshaped.valid .executions) run now
  obtain ⟨graph, result', hgraph⟩ := session.scope.onReply_graphExecutions htheirs run now
  let first := session.conclude run now (session.scope.redirect digests location, result)
  let first' := session.conclude run now ({ session.scope with graphExecutions := graph }, result')
  have hfirst : session.apply (.loaded run ours) now = first := by
    rw [apply_loaded hactive, hdigests session.scope rfl rfl]
  have hfirst' : session.apply (.loaded run theirs) now = first' := by
    rw [apply_loaded hactive, hgraph session.scope rfl]
  have hspec := session.conclude_spec run now (session.scope.redirect digests location) result
  have hspec' :=
    session.conclude_spec run now { session.scope with graphExecutions := graph } result'
  -- the second reply finds the timeline of its own as the first one found it
  have hsecond : first.1.apply (.loaded run theirs) now =
      first.1.conclude run now ({ first.1.scope with graphExecutions := graph }, result') := by
    rw [← hgraph first.1.scope hspec.2.2]
    exact apply_loaded ((activeRun_conclude ..).trans hactive) theirs now
  have hsecond' : first'.1.apply (.loaded run ours) now =
      first'.1.conclude run now (first'.1.scope.redirect digests location, result) := by
    rw [← hdigests first'.1.scope hspec'.1 hspec'.2.1]
    exact apply_loaded ((activeRun_conclude ..).trans hactive) ours now
  dsimp only
  rw [hfirst, hfirst', hsecond, hsecond']
  exact commutes_of_redirects hredirects hrefused

/-- Replies for the two sequences commute: whatever they report, in whichever order they
arrive, the session ends up the same, each is accepted or refused in the same way, and the
same fetches are made in all. -/
theorem replies_commute (config : Config) (valid : config.Valid) (history : List (Event × Nat))
    (run : RunId) (now : Nat) (ours theirs : Reply) (hours : ours.sequence? = some .executions)
    (htheirs : theirs.sequence? = some .graphExecutions) :
    let session := (fresh config valid).applyAll history
    let first := session.apply (.loaded run ours) now
    let first' := session.apply (.loaded run theirs) now
    Agrees first (first.1.apply (.loaded run theirs) now)
      first' (first'.1.apply (.loaded run ours) now) := by
  intro session
  by_cases hactive : session.activeRun = some run
  · exact agrees_of_active (shaped_applyAll config valid history) hactive hours htheirs now
  · -- a reply for another run is dropped, and the session is settled after the first
    have hsettled : session.settle.1.activeRun ≠ some run := by
      rw [activeRun_settle]
      exact hactive
    intro first first'
    change Agrees (session.apply _ now) ((session.apply _ now).1.apply _ now)
      (session.apply _ now) ((session.apply _ now).1.apply _ now)
    rw [apply_loaded_inactive hactive, apply_loaded_inactive hactive,
      apply_loaded_inactive hsettled, apply_loaded_inactive hsettled]
    exact ⟨rfl, rfl, rfl, .refl _⟩

/-- The record of the first execution could not be fetched. -/
def recordFailed : List (Event × Nat) :=
  [(.activeRunChanged (some "a"), 0), (.loaded "a" (.numExecutions 1), 1),
    (.fetchFailed "a" (.executionData ⟨0, 1⟩), 2)]

/-- The next reply asks for the record again, whichever it is. -/
theorem replies_commute_after_failure :
    let session := (fresh {} (by decide)).applyAll recordFailed
    let first := session.apply (.loaded "a" (.numExecutions 2)) 3
    let first' := session.apply (.loaded "a" (.numGraphExecutions 1)) 3
    let second' := first'.1.apply (.loaded "a" (.numExecutions 2)) 3
    Command.queueOf first.2 = [.data "a" (.executionData ⟨0, 1⟩)] ∧
      Command.queueOf second'.2 = [] ∧
      Agrees first (first.1.apply (.loaded "a" (.numGraphExecutions 1)) 3) first' second' := by
  refine ⟨by decide +kernel, by decide +kernel, ?_⟩
  exact replies_commute {} (by decide) recordFailed "a" 3 (.numExecutions 2)
    (.numGraphExecutions 1) rfl rfl

end Session

end TraceViewer
