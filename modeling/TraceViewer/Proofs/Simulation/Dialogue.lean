import TraceViewer.Sample
import TraceViewer.Proofs.Session.Selections

/-!
# Dialogues

A dialogue keeps the ledger of everything that a session has ever fetched from its archive,
its *errands*, and of the selection in which each was made.  The archive answers an errand
whenever it likes: late, more than once, or not at all.  An errand that fails is not
answered any more.  Meanwhile the archive records more, and runs are selected and selected
again.

An answer names its run and not the selection that it is for.  While its run is not active
it leaves the session as it was (`late_answers`).  When its run is active *again*, it is
taken up like an answer of the present selection, and so it can take the mark of a page
that the present selection is still waiting for (`late_answers_taken_up`).  The pages that no
such answer is for are safe: their marks are the errands of the present selection that have
had no answer, and none of them is asked for again meanwhile.

## Strategy

* The ledger is in order (`Ledger`): what is pending is posed to the active run of its
  selection, and backs the marks of the session.
* The errands of the present selection are the orders of an exchange for each of the two
  sequences, and answers of earlier selections are its strays (`Orderly`).
* A move answers an errand, or enters new ones (`orderly_take`, `orderly_answer`), and a
  selection starts a new exchange.
-/

namespace TraceViewer

/-! ## Lists with one entry replaced -/

section Lists

variable {α β : Type} {f : α → Option β} {entry other : α}

theorem filterMap_set_of_none {entries : List α} {place : Nat}
    (hplace : entries[place]? = some entry) (hentry : f entry = none) (hother : f other = none) :
    (entries.set place other).filterMap f = entries.filterMap f := by
  induction entries generalizing place with
  | nil => rfl
  | cons first rest ih =>
      cases place with
      | zero =>
          cases hplace
          rw [List.set_cons_zero, List.filterMap_cons_none hentry, List.filterMap_cons_none hother]
      | succ place =>
          rw [List.set_cons_succ, List.filterMap_cons, List.filterMap_cons, ih hplace]

/-- An entry that is kept has a place among those that are kept. -/
theorem exists_filterMap_set {entries : List α} {place : Nat} {image changed : β}
    (hplace : entries[place]? = some entry) (hentry : f entry = some image)
    (hother : f other = some changed) :
    ∃ kept, (entries.filterMap f)[kept]? = some image ∧
      (entries.set place other).filterMap f = (entries.filterMap f).set kept changed := by
  induction entries generalizing place with
  | nil => cases hplace
  | cons first rest ih =>
      cases place with
      | zero =>
          cases hplace
          refine ⟨0, ?_, ?_⟩
          · rw [List.filterMap_cons_some hentry]
            rfl
          · rw [List.set_cons_zero, List.filterMap_cons_some hentry,
              List.filterMap_cons_some hother]
            rfl
      | succ place =>
          obtain ⟨kept, himage, hset⟩ := ih hplace
          rw [List.set_cons_succ]
          -- what is dropped in front of the entry moves its place
          cases hfirst : f first with
          | none =>
              rw [List.filterMap_cons_none hfirst, List.filterMap_cons_none hfirst]
              exact ⟨kept, himage, hset⟩
          | some kind =>
              rw [List.filterMap_cons_some hfirst, List.filterMap_cons_some hfirst, hset]
              exact ⟨kept + 1, himage, rfl⟩

end Lists

/-! ## Dialogues -/

/-- A fetch that a session made. -/
structure Errand where
  fetch : PendingFetch
  /-- The selection in which it was made. -/
  selection : Nat
  state : OrderState := .unanswered
deriving Repr, DecidableEq

/-- The order of an errand, if it is for a page of a sequence and made in a selection. -/
def Errand.order? (kind : SequenceKind) (selection : Nat) (errand : Errand) : Option Order :=
  if errand.selection = selection then
    (errand.fetch.rangeOf? kind).map fun range => { range, state := errand.state }
  else none

/-- A session and the archive that it fetches from, with the ledger of what was fetched. -/
structure Dialogue where
  session : Session
  archive : Archive
  /-- The time, in milliseconds. -/
  clock : Nat := 0
  /-- How many times a run was selected, or none. -/
  selection : Nat := 0
  /-- Everything that was ever fetched, the oldest first. -/
  errands : List Errand := []
  /-- The fetches of earlier selections of the active run that were answered in the present
  selection, the latest first. -/
  strays : List PendingFetch := []

namespace Dialogue

/-- The orders for pages of a sequence that were made in the present selection. -/
def orders (dialogue : Dialogue) (kind : SequenceKind) : List Order :=
  dialogue.errands.filterMap (·.order? kind dialogue.selection)

/-- Whether an errand is for the active run, but was made before it was selected. -/
def isStray (dialogue : Dialogue) (errand : Errand) : Bool :=
  match errand.fetch with
  | .runs => false
  | .data run _ =>
    errand.selection != dialogue.selection && dialogue.session.activeRun == some run

/-! ### Moves -/

/-- Give an event to the session, and enter what it fetches because of the event. -/
def take (dialogue : Dialogue) (event : Event) : Dialogue :=
  let (session, result) := dialogue.session.apply event dialogue.clock
  let selects := dialogue.session.selects event
  let selection := if selects then dialogue.selection + 1 else dialogue.selection
  { dialogue with
    session
    selection
    errands := dialogue.errands ++ (Command.queueOf result).map ({ fetch := ·, selection })
    strays := if selects then [] else dialogue.strays }

/-- Enter that the errand at a place had the outcome which an event reports. -/
def acknowledge (dialogue : Dialogue) (place : Nat) (errand : Errand) (event : Event) :
    Dialogue :=
  { dialogue with
    errands := dialogue.errands.set place { errand with state := Session.stateAfter event }
    strays :=
      if dialogue.isStray errand then errand.fetch :: dialogue.strays else dialogue.strays }

/-- Answer the errand at a place, unless it has failed. -/
def answer (dialogue : Dialogue) (place : Nat) (outcome : PendingFetch → Event) : Dialogue :=
  match dialogue.errands[place]? with
  | none => dialogue
  | some errand =>
    if errand.state = .failed then dialogue
    else (dialogue.acknowledge place errand (outcome errand.fetch)).take (outcome errand.fetch)

/-- Carry out a move.  An errand that is delivered stays in the ledger, and may be delivered
again. -/
def play (dialogue : Dialogue) : Move → Dialogue
  | .send event => dialogue.take event
  | .deliver place | .duplicate place =>
    dialogue.answer place (Simulation.outcomeOf dialogue.archive)
  | .fail place => dialogue.answer place Simulation.failureOf
  | .advance time => { dialogue with clock := min (dialogue.clock + time) (UInt64.size - 1) }
  | .add addition => { dialogue with archive := dialogue.archive.add addition }
  | .setOffline offline => { dialogue with archive := { dialogue.archive with offline } }

/-- Carry out moves, one after the other. -/
def playAll (dialogue : Dialogue) (moves : List Move) : Dialogue := moves.foldl play dialogue

/-- A session that knows nothing, in front of an archive filled with `additions`. -/
def opening (config : Config) (valid : config.Valid) (additions : List Addition) : Dialogue where
  session := .fresh config valid
  archive := .ofAdditions additions

/-! ## The ledger -/

variable {dialogue : Dialogue} {event : Event}

/-- The ledger of a dialogue is in order. -/
structure Ledger (dialogue : Dialogue) : Prop where
  keyed : ∀ run, (dialogue.archive.recordingOf run).Keyed
  shaped : dialogue.session.Shaped
  backed : dialogue.session.Backed (fun run => (dialogue.archive.recordingOf run).total)
    (dialogue.errands.map Errand.fetch)
  posed : ∀ errand ∈ dialogue.errands, ∀ run request, errand.fetch = .data run request →
    request.Posed dialogue.session.config.geometry (dialogue.archive.recordingOf run).total
  selection_le : ∀ errand ∈ dialogue.errands, errand.selection ≤ dialogue.selection
  /-- A selection is of one run. -/
  active : ∀ errand ∈ dialogue.errands, errand.selection = dialogue.selection →
    ∀ run request, errand.fetch = .data run request → dialogue.session.activeRun = some run

theorem ledger_opening (config : Config) (valid : config.Valid) (additions : List Addition) :
    (opening config valid additions).Ledger where
  keyed := Archive.keyed_ofAdditions additions
  shaped := Session.geometry_fresh config valid
  backed := Session.backed_fresh config valid
  posed := by
    rintro errand ⟨⟩
  selection_le := by
    rintro errand ⟨⟩
  active := by
    rintro errand ⟨⟩

section Take

variable (hledger : dialogue.Ledger)
  (hbacked : (dialogue.session.reduce dialogue.clock event).1.Backed
    (fun run => (dialogue.archive.recordingOf run).total)
    (dialogue.errands.map Errand.fetch ++
      Command.queueOf (dialogue.session.reduce dialogue.clock event).2))

/-- An errand that is entered is made in the selection that the event leads to. -/
theorem mem_errands_take {errand : Errand} (hmem : errand ∈ (dialogue.take event).errands) :
    errand ∈ dialogue.errands ∨
      errand.fetch ∈ Command.queueOf (dialogue.session.apply event dialogue.clock).2 ∧
        errand.selection = (dialogue.take event).selection := by
  rcases List.mem_append.mp hmem with hold | hnew
  · exact Or.inl hold
  · obtain ⟨fetch, hfetch, rfl⟩ := List.mem_map.mp hnew
    exact Or.inr ⟨hfetch, rfl⟩

theorem errands_take (dialogue : Dialogue) (event : Event) :
    (dialogue.take event).errands =
      dialogue.errands ++ (Command.queueOf (dialogue.session.apply event dialogue.clock).2).map
        ({ fetch := ·, selection := (dialogue.take event).selection }) := rfl

theorem selection_take (dialogue : Dialogue) (event : Event) :
    (dialogue.take event).selection =
      if dialogue.session.selects event then dialogue.selection + 1 else dialogue.selection := rfl

include hledger hbacked in
theorem ledger_take
    (hposes : (dialogue.session.reduce dialogue.clock event).1.Poses
      (fun run => (dialogue.archive.recordingOf run).total)
      (Command.queueOf (dialogue.session.reduce dialogue.clock event).2)) :
    (dialogue.take event).Ledger := by
  have hreshapes := dialogue.session.reshapes_apply event dialogue.clock
  have hasked := Session.poses_apply hbacked hposes
  refine
    { keyed := hledger.keyed
      shaped := hreshapes.shaped hledger.shaped
      backed := ?_
      posed := ?_
      selection_le := ?_
      active := ?_ }
  · have happlied := Session.backed_apply hbacked
    -- what the event asks for is filed after the old errands
    have hfetches : (dialogue.take event).errands.map Errand.fetch =
        dialogue.errands.map Errand.fetch ++
          Command.queueOf (dialogue.session.apply event dialogue.clock).2 := by
      simp [take, Function.comp_def]
    rw [hfetches]
    exact happlied
  · intro errand hmem run request hfetch
    rcases mem_errands_take hmem with hold | ⟨hnew, _⟩
    · have hposed := hledger.posed errand hold run request hfetch
      rw [← hreshapes.config_eq] at hposed
      exact hposed
    · rw [hfetch] at hnew
      exact (hasked run request hnew).2
  · intro errand hmem
    rcases mem_errands_take hmem with hold | ⟨_, hselection⟩
    · have hle := hledger.selection_le errand hold
      rw [selection_take]
      split_ifs <;> omega
    · exact Nat.le_of_eq hselection
  · intro errand hmem hselection run request hfetch
    rcases mem_errands_take hmem with hold | ⟨hnew, _⟩
    · -- an earlier errand of the selection, so this event has not made the selection
      have hle := hledger.selection_le errand hold
      rw [selection_take] at hselection
      split_ifs at hselection with hselects
      · omega
      · have hactive := hledger.active errand hold hselection run request hfetch
        rw [← Session.activeRun_of_not_selects (Bool.eq_false_iff.mpr hselects)
          dialogue.clock] at hactive
        exact (Session.activeRun_apply ..).trans hactive
    · rw [hfetch] at hnew
      exact (hasked run request hnew).1

end Take

/-! ## Orders -/

/-- What holds throughout a dialogue. -/
structure Orderly (dialogue : Dialogue) : Prop where
  ledger : dialogue.Ledger
  orders : ∀ kind, dialogue.session.Orderly dialogue.archive (dialogue.orders kind)
    (rangesOf kind dialogue.strays) kind

theorem orderly_opening (config : Config) (valid : config.Valid) (additions : List Addition) :
    (opening config valid additions).Orderly where
  ledger := ledger_opening config valid additions
  orders := Session.orderly_fresh config valid _

/-- An event that selects starts with no orders; any other adds to those from before. -/
theorem orders_take (hledger : dialogue.Ledger) (event : Event) (kind : SequenceKind) :
    (dialogue.take event).orders kind =
      (if dialogue.session.selects event then [] else dialogue.orders kind) ++
        ordersOf kind (Command.queueOf (dialogue.session.apply event dialogue.clock).2) := by
  have hentered : ∀ (queue : List PendingFetch) (selection : Nat),
      (queue.map ({ fetch := ·, selection } : PendingFetch → Errand)).filterMap
        (·.order? kind selection) = ordersOf kind queue := by
    intro queue selection
    rw [List.filterMap_map, ordersOf, rangesOf, List.map_filterMap]
    simp [Errand.order?, Function.comp_def]
  rw [orders, errands_take, List.filterMap_append, hentered, selection_take]
  split_ifs with hselects
  · -- every errand is of an earlier selection now
    have hnone : dialogue.errands.filterMap (·.order? kind (dialogue.selection + 1)) = [] := by
      refine List.filterMap_eq_nil_iff.mpr fun errand hmem => ?_
      have hle := hledger.selection_le errand hmem
      exact if_neg (by omega)
    rw [hnone]
  · rfl

theorem orderly_take (hledger : dialogue.Ledger)
    (hbacked : (dialogue.session.reduce dialogue.clock event).1.Backed
      (fun run => (dialogue.archive.recordingOf run).total)
      (dialogue.errands.map Errand.fetch ++
        Command.queueOf (dialogue.session.reduce dialogue.clock event).2))
    (hposes : (dialogue.session.reduce dialogue.clock event).1.Poses
      (fun run => (dialogue.archive.recordingOf run).total)
      (Command.queueOf (dialogue.session.reduce dialogue.clock event).2))
    (hreduced : dialogue.session.selects event = false → ∀ kind,
      (dialogue.session.reduce dialogue.clock event).1.Orderly dialogue.archive
        (dialogue.orders kind ++
          ordersOf kind (Command.queueOf (dialogue.session.reduce dialogue.clock event).2))
        (rangesOf kind dialogue.strays) kind) :
    (dialogue.take event).Orderly where
  ledger := ledger_take hledger hbacked hposes
  orders := by
    intro kind
    rw [orders_take hledger]
    refine Session.orderly_apply hbacked ?_
    rw [take]
    dsimp only
    split_ifs with hselects
    · obtain ⟨before, run, hchange⟩ := Session.reduce_of_selects hselects dialogue.clock
      rw [hchange, List.nil_append]
      exact Session.orderly_changeRun dialogue.archive before run kind
    · exact hreduced (Bool.eq_false_iff.mpr hselects) kind

/-- An event of the user. -/
theorem orderly_send (horderly : dialogue.Orderly) (huser : event.isUser = true) :
    (dialogue.take event).Orderly := by
  obtain ⟨hledger, horders⟩ := horderly
  refine orderly_take hledger
    (Session.backed_reduce_user hledger.backed dialogue.clock huser)
    (Session.poses_reduce_user hledger.shaped hledger.backed dialogue.clock huser) ?_
  intro hstays kind
  rcases dialogue.session.reduce_user dialogue.clock huser with ⟨run, rfl, _⟩ | hstep
  · cases hstays
  · exact Session.orderly_userStep hledger.backed (horders kind) hstep

/-! ## Answers -/

section Answer

variable {place : Nat} {errand : Errand} {kind : SequenceKind}
  (hplace : dialogue.errands[place]? = some errand)

theorem ledger_acknowledge (hledger : dialogue.Ledger)
    (hplace : dialogue.errands[place]? = some errand) (event : Event) :
    (dialogue.acknowledge place errand event).Ledger := by
  let answered : Errand := { errand with state := Session.stateAfter event }
  have hfetches : (dialogue.acknowledge place errand event).errands.map Errand.fetch =
      dialogue.errands.map Errand.fetch := by
    obtain ⟨hlt, hget⟩ := List.getElem?_eq_some_iff.mp hplace
    calc (dialogue.errands.set place answered).map Errand.fetch
        _ = (dialogue.errands.map Errand.fetch).set place errand.fetch := List.map_set
        _ = (dialogue.errands.set place errand).map Errand.fetch := List.map_set.symm
        _ = dialogue.errands.map Errand.fetch := by rw [← hget, List.set_getElem_self]
  -- an answer changes the state of an errand and nothing else about it
  have hmem : ∀ other ∈ (dialogue.acknowledge place errand event).errands,
      ∃ before ∈ dialogue.errands, before.fetch = other.fetch ∧
        before.selection = other.selection := by
    intro other hother
    rcases List.mem_or_eq_of_mem_set hother with hold | rfl
    · exact ⟨other, hold, rfl, rfl⟩
    · exact ⟨errand, List.mem_of_getElem? hplace, rfl, rfl⟩
  refine
    { keyed := hledger.keyed
      shaped := hledger.shaped
      backed := ?_
      posed := ?_
      selection_le := ?_
      active := ?_ }
  · rw [hfetches]
    exact hledger.backed
  · intro other hother run request hfetch
    obtain ⟨before, hbefore, hsame, _⟩ := hmem other hother
    exact hledger.posed before hbefore run request (hsame.trans hfetch)
  · intro other hother
    obtain ⟨before, hbefore, _, hsame⟩ := hmem other hother
    exact hsame ▸ hledger.selection_le before hbefore
  · intro other hother hselection run request hfetch
    obtain ⟨before, hbefore, hsame, hsame'⟩ := hmem other hother
    exact hledger.active before hbefore (hsame'.trans hselection) run request
      (hsame.trans hfetch)

/-- An errand that is for no page of the sequence in the active run is neither an order nor
a stray. -/
theorem acknowledge_other (hledger : dialogue.Ledger)
    (hplace : dialogue.errands[place]? = some errand)
    (hother : ∀ run range, errand.fetch = .data run (.page kind range) →
      dialogue.session.activeRun ≠ some run) (event : Event) :
    (dialogue.acknowledge place errand event).orders kind = dialogue.orders kind ∧
      rangesOf kind (dialogue.acknowledge place errand event).strays =
        rangesOf kind dialogue.strays := by
  cases hrange : errand.fetch.rangeOf? kind with
  | none =>
      refine ⟨filterMap_set_of_none hplace ?_ ?_, ?_⟩
      · simp [Errand.order?, hrange]
      · simp [Errand.order?, hrange]
      · rw [acknowledge]
        split_ifs
        · exact List.filterMap_cons_none hrange
        · rfl
  | some range =>
      -- the run is not active, so the errand is not of the present selection
      obtain ⟨run, hfetch⟩ := PendingFetch.rangeOf?_eq_some_iff.mp hrange
      have hinactive := hother run range hfetch
      have hpast : errand.selection ≠ dialogue.selection := fun hsame => hinactive
        (hledger.active errand (List.mem_of_getElem? hplace) hsame run _ hfetch)
      have hstray : dialogue.isStray errand = false := by
        simp [isStray, hfetch, hinactive]
      refine ⟨filterMap_set_of_none hplace (if_neg hpast) (if_neg hpast), ?_⟩
      rw [acknowledge, hstray]
      rfl

variable {run : RunId} {range : Interval}

/-- A page fetch of the present selection is an order. -/
theorem acknowledge_own (hplace : dialogue.errands[place]? = some errand)
    (hfetch : errand.fetch = .data run (.page kind range))
    (hown : errand.selection = dialogue.selection) (event : Event) :
    (∃ kept, (dialogue.orders kind)[kept]? = some { range, state := errand.state } ∧
      (dialogue.acknowledge place errand event).orders kind =
        (dialogue.orders kind).set kept { range, state := Session.stateAfter event }) ∧
      rangesOf kind (dialogue.acknowledge place errand event).strays =
        rangesOf kind dialogue.strays := by
  have hrange : errand.fetch.rangeOf? kind = some range :=
    PendingFetch.rangeOf?_eq_some_iff.mpr ⟨run, hfetch⟩
  have hstray : dialogue.isStray errand = false := by
    simp [isStray, hfetch, hown]
  refine ⟨exists_filterMap_set hplace ?_ ?_, ?_⟩
  · simp [Errand.order?, hown, hrange]
  · simp [Errand.order?, hown, hrange]
  · rw [acknowledge, hstray]
    rfl

/-- A page fetch of an earlier selection of the active run is a stray. -/
theorem acknowledge_stray (hplace : dialogue.errands[place]? = some errand)
    (hfetch : errand.fetch = .data run (.page kind range))
    (hactive : dialogue.session.activeRun = some run)
    (hpast : errand.selection ≠ dialogue.selection) (event : Event) :
    (dialogue.acknowledge place errand event).orders kind = dialogue.orders kind ∧
      rangesOf kind (dialogue.acknowledge place errand event).strays =
        range :: rangesOf kind dialogue.strays := by
  have hrange : errand.fetch.rangeOf? kind = some range :=
    PendingFetch.rangeOf?_eq_some_iff.mpr ⟨run, hfetch⟩
  have hstray : dialogue.isStray errand = true := by
    simp [isStray, hfetch, hpast, hactive]
  refine ⟨filterMap_set_of_none hplace (if_neg hpast) (if_neg hpast), ?_⟩
  rw [acknowledge, hstray]
  exact List.filterMap_cons_some hrange

/-- An answer that selects no run. -/
theorem orderly_reduce_answer (horderly : dialogue.Orderly)
    (hplace : dialogue.errands[place]? = some errand) (hopen : errand.state ≠ .failed)
    (hgives : dialogue.archive.Gives errand.fetch event)
    (hstays : dialogue.session.selects event = false) (kind : SequenceKind) :
    (dialogue.session.reduce dialogue.clock event).1.Orderly dialogue.archive
      ((dialogue.acknowledge place errand event).orders kind ++
        ordersOf kind (Command.queueOf (dialogue.session.reduce dialogue.clock event).2))
      (rangesOf kind (dialogue.acknowledge place errand event).strays) kind := by
  obtain ⟨hledger, horders⟩ := horderly
  by_cases hpage : ∃ run range, errand.fetch = .data run (.page kind range) ∧
      dialogue.session.activeRun = some run
  · obtain ⟨run, range, hfetch, hactive⟩ := hpage
    rw [hfetch] at hgives
    -- of two fetches of one page only that of the present selection is an order
    by_cases hown : errand.selection = dialogue.selection
    · obtain ⟨⟨kept, hkept, hset⟩, hstrays⟩ := acknowledge_own hplace hfetch hown event
      rw [hset, hstrays]
      exact Session.orderly_reduce_own hledger.backed hledger.keyed (horders kind) dialogue.clock
        hactive hgives hkept hopen
    · obtain ⟨hsame, hstrays⟩ := acknowledge_stray hplace hfetch hactive hown event
      have hposed := hledger.posed errand (List.mem_of_getElem? hplace) run _ hfetch
      rw [← hledger.shaped] at hposed
      rw [hsame, hstrays]
      exact Session.orderly_reduce_stray hledger.backed hledger.keyed (horders kind)
        dialogue.clock hactive hgives hposed.1
  · obtain ⟨hsame, hstrays⟩ := acknowledge_other hledger hplace
      (fun run range hfetch hactive => hpage ⟨run, range, hfetch, hactive⟩) event
    rw [hsame, hstrays]
    exact Session.orderly_reduce_other hledger.backed hledger.keyed (horders kind)
      dialogue.clock hgives hstays fun run range hfetch hactive =>
        hpage ⟨run, range, hfetch, hactive⟩

theorem orderly_answer (horderly : dialogue.Orderly) (place : Nat)
    {outcome : PendingFetch → Event}
    (hgives : ∀ fetch, dialogue.archive.Gives fetch (outcome fetch)) :
    (dialogue.answer place outcome).Orderly := by
  have hledger := horderly.ledger
  rw [answer]
  cases hplace : dialogue.errands[place]? with
  | none => exact horderly
  | some errand =>
      dsimp only
      split_ifs with hfailed
      · exact horderly
      · have hacknowledged := ledger_acknowledge hledger hplace (outcome errand.fetch)
        have hbacked := hacknowledged.backed
        exact orderly_take hacknowledged
          (Session.backed_reduce_answer hbacked (fun _ hother _ => hother) dialogue.clock
            ((hgives errand.fetch).answers hledger.keyed))
          (Session.poses_reduce_outcome hledger.shaped hledger.backed hledger.keyed
            (hgives errand.fetch) dialogue.clock)
          fun hstays => orderly_reduce_answer horderly hplace hfailed (hgives errand.fetch) hstays

end Answer

/-! ## Moves -/

/-- The archive may be replaced by one that has recorded no less. -/
theorem Orderly.withArchive (horderly : dialogue.Orderly) {archive : Archive}
    (hkeyed : ∀ run, (archive.recordingOf run).Keyed)
    (hmore : ∀ run kind, (dialogue.archive.recordingOf run).total kind ≤
      (archive.recordingOf run).total kind) : { dialogue with archive }.Orderly where
  ledger :=
    { keyed := hkeyed
      shaped := horderly.ledger.shaped
      backed := horderly.ledger.backed.mono hmore
      posed := fun errand hmem run request hfetch =>
        (horderly.ledger.posed errand hmem run request hfetch).mono (hmore run)
      selection_le := horderly.ledger.selection_le
      active := horderly.ledger.active }
  orders := fun kind => (horderly.orders kind).of_archive fun run => hmore run kind

theorem orderly_play (horderly : dialogue.Orderly) {move : Move} (hfair : move.IsFair) :
    (dialogue.play move).Orderly := by
  cases move with
  | send event => exact orderly_send horderly hfair
  | deliver place | duplicate place =>
      exact orderly_answer horderly place dialogue.archive.gives_outcomeOf
  | fail place => exact orderly_answer horderly place dialogue.archive.gives_failureOf
  | advance time =>
      obtain ⟨⟨hkeyed, hshaped, hbacked, hposed, hselection, hactive⟩, horders⟩ := horderly
      exact ⟨⟨hkeyed, hshaped, hbacked, hposed, hselection, hactive⟩, horders⟩
  | add addition =>
      exact horderly.withArchive (Archive.keyed_add horderly.ledger.keyed addition)
        fun run kind => dialogue.archive.total_add addition run kind
  | setOffline offline =>
      exact horderly.withArchive horderly.ledger.keyed fun _ _ => Nat.le_refl _

theorem orderly_playAll (horderly : dialogue.Orderly) {moves : List Move}
    (hfair : ∀ move ∈ moves, move.IsFair) : (dialogue.playAll moves).Orderly := by
  induction moves generalizing dialogue with
  | nil => exact horderly
  | cons move rest ih =>
      rw [List.forall_mem_cons] at hfair
      exact ih (orderly_play horderly hfair.1) hfair.2

/-! ## Late answers -/

/-- What was fetched in the present selection is of the active run.  Whatever arrives for
another run is therefore late, and it is dropped; of all that may arrive for an errand, only
a file that is not listed is refused.

A page that no late answer for the active run was for is being fetched exactly when an order
of the present selection for it is unanswered, and it is not asked for again meanwhile. -/
theorem late_answers (config : Config) (valid : config.Valid) (additions : List Addition)
    (moves : List Move) (hfair : ∀ move ∈ moves, move.IsFair) :
    let dialogue := (opening config valid additions).playAll moves
    let session := dialogue.session
    (∀ errand ∈ dialogue.errands, ∀ run request, errand.fetch = .data run request →
      errand.selection = dialogue.selection → session.activeRun = some run) ∧
    (∀ run, session.activeRun ≠ some run → ∀ reply request now,
      session.Drops (.loaded run reply) now ∧ session.Drops (.fetchFailed run request) now) ∧
    (∀ errand ∈ dialogue.errands, ∀ event, dialogue.archive.Gives errand.fetch event →
      ∀ now error, (session.apply event now).2 = .error error →
        ∃ run file, errand.fetch = .data run (.sourceFile file) ∧
          session.activeRun = some run ∧ file ∉ session.scope.sources.files ∧
          error = .unknownSourceFile file) ∧
    ∀ kind page,
      (∀ run range, .data run (.page kind range) ∈ dialogue.strays →
        ¬ Order.Covers { range } (session.scope.geometry kind).pageSize page) →
      (session.scope.isInFlight kind page = true ↔
        ∃ order ∈ dialogue.orders kind, order.state = .unanswered ∧
          order.Covers (session.scope.geometry kind).pageSize page) ∧
      ∀ (first second : Nat) (one two : Order), (dialogue.orders kind)[first]? = some one →
        (dialogue.orders kind)[second]? = some two → first < second → one.state = .unanswered →
          one.Covers (session.scope.geometry kind).pageSize page →
            ¬ two.Covers (session.scope.geometry kind).pageSize page := by
  intro dialogue session
  have horderly : dialogue.Orderly := orderly_playAll (orderly_opening config valid additions) hfair
  have hledger := horderly.ledger
  refine ⟨fun errand hmem run request hfetch hown => ?_, fun run hinactive reply request now => ?_,
    fun errand hmem event hgives now error hrefused => ?_, fun kind page hspared => ?_⟩
  · exact hledger.active errand hmem hown run request hfetch
  · exact ⟨Session.drops_loaded hinactive reply now, Session.drops_fetchFailed hinactive request now⟩
  · obtain ⟨after, hreduced⟩ := Session.reduce_of_refused hrefused
    exact Session.unlisted_of_refused hledger.backed hledger.shaped hledger.keyed hgives
      (hledger.posed errand hmem) hreduced
  · refine RunScope.Orderly.page_spec (horderly.orders kind) fun stray hstray => ?_
    -- the strays of a sequence are the pages among the stray fetches
    obtain ⟨fetch, hfetch, hrange⟩ := List.mem_filterMap.mp hstray
    obtain ⟨run, rfl⟩ := PendingFetch.rangeOf?_eq_some_iff.mp hrange
    exact hspared run stray hfetch

/-- A run of one execution and one file. -/
def book : List Addition :=
  [.run "a" 1, .execution "a" (Sample.execution "Op0" []), .file "a" (Sample.file "f.py") ["line"]]

/-- While the page and the file are being fetched, another run is selected, and then the
first one again.  Its page is asked for once more. -/
def reselection : List Move :=
  [.send (.activeRunChanged (some "a")), .deliver 0, .deliver 3,
    .send (.sourceFileRequested (Sample.file "f.py")), .send (.activeRunChanged (some "b")),
    .send (.activeRunChanged (some "a")), .deliver 11]

/-- Where the reselection leaves a dialogue. -/
def reselected : Dialogue := (opening {} Config.valid_default book).playAll reselection

theorem reselected_spec :
    reselected.selection = 3 ∧ reselected.session.activeRun = some "a" ∧ reselected.strays = [] ∧
      reselected.orders .executions = [{ range := ⟨0, 1⟩ }] := by
  decide +kernel

/-- The page is being fetched for the present selection.  Answers for `b` are late and
dropped. -/
theorem late_answers_after_reselection :
    reselected.orders .executions = [{ range := ⟨0, 1⟩ }] ∧
      reselected.session.scope.isInFlight .executions 0 = true ∧
      ∀ reply now, reselected.session.Drops (.loaded "b" reply) now := by
  obtain ⟨_, hactive, hstrays, horders⟩ := reselected_spec
  obtain ⟨_, hdrops, _, hpages⟩ := late_answers {} Config.valid_default book reselection
    (by simp [reselection, Move.IsFair, Event.isUser])
  refine ⟨horders, ((hpages .executions 0 ?_).1).mpr ?_, fun reply now => ?_⟩
  · intro run range hstray
    exact absurd hstray (hstrays ▸ List.not_mem_nil)
  · exact ⟨_, horders ▸ List.mem_singleton_self _, rfl, 0, by decide, Nat.zero_div _⟩
  · have hinactive : reselected.session.activeRun ≠ some "b" := by
      rw [hactive]
      decide
    exact (hdrops "b" hinactive reply .numExecutions now).1

/-- Errands of the first selection have their outcome in the third, when their run is active
again.  The failure of the page takes the mark that the third selection has set, and the page
is asked for again although the order for it is unanswered.  The file is refused. -/
theorem late_answers_taken_up :
    reselected.selection = 3 ∧
      reselected.errands[4]? =
        some { fetch := .data "a" (.page .executions ⟨0, 1⟩), selection := 1 } ∧
      ¬ reselected.session.Drops (.fetchFailed "a" (.page .executions ⟨0, 1⟩)) reselected.clock ∧
      ((reselected.play (.fail 4)).play (.send (.scrollToIndex .executions 0))).orders
        .executions = [{ range := ⟨0, 1⟩ }, { range := ⟨0, 1⟩ }] ∧
      reselected.errands[6]? =
        some { fetch := .data "a" (.sourceFile (Sample.file "f.py")), selection := 1 } ∧
      (reselected.session.apply (Simulation.outcomeOf reselected.archive
        (.data "a" (.sourceFile (Sample.file "f.py")))) reselected.clock).2 =
          .error (.unknownSourceFile (Sample.file "f.py")) := by
  have hmarked : reselected.session.scope.isInFlight .executions 0 = true := by
    decide +kernel
  have htaken : (reselected.session.apply (.fetchFailed "a" (.page .executions ⟨0, 1⟩))
      reselected.clock).1.scope.isInFlight .executions 0 = false := by
    decide +kernel
  refine ⟨reselected_spec.1, by decide +kernel, fun hdrops => ?_, by decide +kernel,
    by decide +kernel, by rfl⟩
  -- had the failure been dropped, the page would still be marked
  have hsame : (reselected.session.apply (.fetchFailed "a" (.page .executions ⟨0, 1⟩))
      reselected.clock).1 = reselected.session := congrArg Prod.fst hdrops
  rw [hsame, hmarked] at htaken
  cases htaken

end Dialogue

end TraceViewer
