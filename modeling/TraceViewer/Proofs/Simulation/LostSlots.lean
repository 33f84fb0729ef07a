import Mathlib.Data.List.Permutation
import TraceViewer.Sample
import TraceViewer.Proofs.Session.Promises
import TraceViewer.Proofs.Simulation.Backing

/-!
# Lost slots

When does a visible slot stay empty although every fetch was answered?  A page that is
being fetched is not asked for again, also when the sequence has grown past what the
fetch was made for.  A total that arrives in the meantime reports the growth, and the
window is asked for, but the page is marked, so nothing is handed out.  When the page
arrives the total is known already, so the window is not asked for once more, and the
slots that the fetch fell short of stay empty until something else asks.

`empty_slot_iff` says that this is the only way to lose a slot, and that it always loses
it: when nothing is pending any more, a visible slot is empty exactly when a fetch of its
page fell short of it at some moment after which the window was never covered again.  To
ask for a window covers it, so after such a moment the window was not asked for.

The schedules are those in which nothing fails: the archive is online, no fetch is
failed, and the run is the one that the listing selects.

## Strategy

Every move leaves the window covered or is steady (`attends_play`).  From the last moment
at which the window was covered the schedule is steady, so what was not promised then is
not promised in the end, and in the end only what is held is promised.
-/

namespace TraceViewer

/-! ## Schedules in which nothing fails -/

/-- Whether a move fails no fetch, selects no run and adds none. -/
def Move.Delivers : Move → Prop
  | .send event => event.isUser = true ∧ ∀ run, event ≠ .activeRunChanged run
  | .deliver _ | .duplicate _ | .advance _ => True
  | .add addition => ∀ run startTime, addition ≠ .run run startTime
  | .fail _ | .setOffline _ => False

theorem Move.Delivers.isFair {move : Move} (hdelivers : move.Delivers) : move.IsFair := by
  cases move with
  | send event => exact hdelivers.1
  | _ => trivial

namespace Archive

variable {archive : Archive} {addition : Addition}

theorem metadata_change (hadds : ∀ run startTime, addition ≠ .run run startTime)
    (recording : Recording) : (addition.change recording).metadata = recording.metadata := by
  cases addition with
  | run run startTime => exact absurd rfl (hadds run startTime)
  | op run op =>
      change (recording.insertOp op).metadata = recording.metadata
      rw [Recording.insertOp]
      cases op.graphId? <;> rfl
  | _ => rfl

/-- Adding to a run changes neither which runs are listed nor in what order. -/
theorem listing_modifyRun (archive : Archive) (run : RunId) {change : Recording → Recording}
    (hchange : ∀ recording, (change recording).metadata = recording.metadata) :
    (archive.modifyRun run change).listing = archive.listing := by
  rw [modifyRun]
  cases hrun : archive.runs[run]? with
  | none => rfl
  | some recording =>
      refine Std.ExtTreeMap.ext_getElem? fun other => ?_
      rw [listing, listing, Std.ExtTreeMap.getElem?_filterMap', Std.ExtTreeMap.getElem?_filterMap',
        Std.ExtTreeMap.getElem?_insert]
      split_ifs with hsame
      · rw [Std.LawfulEqOrd.compare_eq_iff_eq] at hsame
        subst hsame
        rw [hrun, Option.bind_some, Option.bind_some, hchange]
      · rfl

theorem listing_add (hadds : ∀ run startTime, addition ≠ .run run startTime) :
    (archive.add addition).listing = archive.listing := by
  have hmetadata := metadata_change hadds
  cases addition with
  | run run startTime => exact absurd rfl (hadds run startTime)
  | _ => exact archive.listing_modifyRun _ hmetadata

end Archive

/-! ## Moves -/

namespace Simulation

variable {simulation before after : Simulation Archive}

/-- What holds of a simulation in which nothing fails. -/
structure Ordered (simulation : Simulation Archive) : Prop where
  backed : simulation.Backed
  online : simulation.source.offline = false
  /-- The active run is the one that is listed first. -/
  listed : ∀ run, simulation.session.activeRun = some run →
    simulation.source.listing.minKey? = some run
  fed : simulation.session.Fed simulation.pending

/-- Whether a window is covered: every empty slot of it lies in a page that is being
fetched. -/
def Covered (simulation : Simulation Archive) (kind : SequenceKind) : Prop :=
  simulation.session.scope.Covered kind

/-- What a move does: it keeps things in order, and it covers a window or is steady. -/
structure Attends (before after : Simulation Archive) : Prop where
  ordered : after.Ordered
  covered_or : ∀ kind, after.Covered kind ∨
    before.session.scope.Steady after.session.scope kind

theorem ordered_opening (config : Config) (valid : config.Valid) (additions : List Addition) :
    (opening config valid additions).Ordered where
  backed := backed_opening config valid additions
  online := Archive.offline_ofAdditions additions
  listed := by
    rintro run ⟨⟩
  fed := Session.fed_fresh config valid

theorem attends_self (hordered : simulation.Ordered) : simulation.Attends simulation :=
  ⟨hordered, fun kind => Or.inr (simulation.session.scope.steady_self kind)⟩

/-- Sending an event that the session attends to, perhaps after a fetch was taken out of
the queue. -/
theorem attends_send (hordered : simulation.Ordered) {staged : Simulation Archive}
    (hstaged : staged.session = simulation.session ∧ staged.source = simulation.source ∧
      staged.pending ⊆ simulation.pending)
    {event : Event} (hbacked : (staged.send event).Backed)
    (hactive : (simulation.session.reduce staged.clock event).1.activeRun =
        simulation.session.activeRun ∨
      (simulation.session.reduce staged.clock event).1.activeRun =
        simulation.source.listing.minKey?)
    (hattends : simulation.session.Attends simulation.pending
      (simulation.session.reduce staged.clock event).1
      (Command.queueOf (simulation.session.reduce staged.clock event).2)) :
    simulation.Attends (staged.send event) := by
  obtain ⟨hsession, hsource, hpending⟩ := hstaged
  have happly := Session.attends_apply hattends
  rw [← hsession] at happly
  refine ⟨⟨hbacked, ?_, ?_, ?_⟩, ?_⟩
  · rw [source_send, hsource]
    exact hordered.online
  · intro run hrun
    rw [session_send, Session.activeRun_apply, hsession] at hrun
    rw [source_send, hsource]
    -- the run was active before and came first, or it was selected for coming first
    rcases hactive with hsame | hlisted
    · exact hordered.listed run (hsame.symm.trans hrun)
    · exact hlisted.symm.trans hrun
  · rw [session_send, pending_send]
    exact happly.fed.of_subset (List.append_subset.mpr
      ⟨List.subset_append_of_subset_left _ hpending, List.subset_append_right _ _⟩)
  · intro kind
    have hcovered := happly.covered_or kind
    rw [← session_send, hsession] at hcovered
    exact hcovered

/-- Delivering a pending fetch, whether it stays in the queue or not. -/
theorem attends_complete (hordered : simulation.Ordered) {fetch : PendingFetch}
    (hfetch : fetch ∈ simulation.pending) {rest : List PendingFetch}
    (hrest : rest ⊆ simulation.pending)
    (hbacked : (complete { simulation with pending := rest } fetch).Backed) :
    simulation.Attends (complete { simulation with pending := rest } fetch) := by
  let staged := { simulation with pending := rest }.record (.delivered fetch)
  have hstaged : staged.session = simulation.session ∧ staged.source = simulation.source ∧
      staged.pending ⊆ simulation.pending := ⟨rfl, rfl, hrest⟩
  exact attends_send hordered hstaged hbacked
    (Session.activeRun_reduce_outcome hordered.online simulation.clock fetch)
    (Session.attends_reduce_outcome hordered.online hordered.fed hordered.backed.session
      hordered.listed simulation.clock hfetch)

/-- Every move of a schedule in which nothing fails covers a window or is steady. -/
theorem attends_play (hordered : simulation.Ordered) {move : Move}
    (hdelivers : move.Delivers) : simulation.Attends (simulation.play move) := by
  have hbacked := backed_play hordered.backed hdelivers.isFair
  cases move with
  | send event =>
      obtain ⟨huser, hstays⟩ := hdelivers
      exact attends_send hordered ⟨rfl, rfl, List.Subset.refl _⟩ hbacked
        (Or.inl (Session.activeRun_reduce_user huser hstays simulation.clock))
        (Session.attends_reduce_user hordered.fed hordered.backed.session simulation.clock huser
          hstays)
  | deliver index =>
      rw [play, deliverAt?] at hbacked ⊢
      cases hfetch : simulation.pending[index]? with
      | none => exact attends_self hordered
      | some fetch =>
          rw [hfetch] at hbacked
          exact attends_complete hordered (List.mem_of_getElem? hfetch)
            (List.eraseIdx_subset ..) hbacked
  | duplicate index =>
      rw [play, duplicateAt?] at hbacked ⊢
      cases hfetch : simulation.pending[index]? with
      | none => exact attends_self hordered
      | some fetch =>
          rw [hfetch] at hbacked
          exact attends_complete hordered (List.mem_of_getElem? hfetch) (List.Subset.refl _) hbacked
  | fail index => exact hdelivers.elim
  | advance time =>
      refine ⟨⟨hbacked, hordered.online, hordered.listed, hordered.fed⟩, fun kind => Or.inr ?_⟩
      exact simulation.session.scope.steady_self kind
  | add addition =>
      refine ⟨⟨hbacked, ?_, ?_, hordered.fed⟩, fun kind => Or.inr ?_⟩
      · exact (simulation.source.offline_add addition).trans hordered.online
      · intro run hactive
        rw [← hordered.listed run hactive]
        exact congrArg _ (Archive.listing_add hdelivers)
      · exact simulation.session.scope.steady_self kind
  | setOffline offline => exact hdelivers.elim

/-! ## Runs -/

theorem playAll_append (simulation : Simulation Archive) (first second : List Move) :
    simulation.playAll (first ++ second) = (simulation.playAll first).playAll second :=
  List.foldl_append

theorem ordered_playAll (hordered : simulation.Ordered) {moves : List Move}
    (hdelivers : ∀ move ∈ moves, move.Delivers) : (simulation.playAll moves).Ordered := by
  induction moves generalizing simulation with
  | nil => exact hordered
  | cons move rest ih =>
      rw [List.forall_mem_cons] at hdelivers
      exact ih (attends_play hordered hdelivers.1).ordered hdelivers.2

/-- Whether a window is covered at no moment after the present one. -/
def NeverCovered (kind : SequenceKind) (simulation : Simulation Archive) : List Move → Prop
  | [] => True
  | move :: rest =>
    ¬ (simulation.play move).Covered kind ∧ (simulation.play move).NeverCovered kind rest

/-- While a window is not covered, nothing is asked for, and all moves are steady. -/
theorem steady_of_neverCovered (hordered : simulation.Ordered) {kind : SequenceKind}
    {moves : List Move} (hdelivers : ∀ move ∈ moves, move.Delivers)
    (hnever : simulation.NeverCovered kind moves) :
    simulation.session.scope.Steady (simulation.playAll moves).session.scope kind := by
  induction moves generalizing simulation with
  | nil => exact simulation.session.scope.steady_self kind
  | cons move rest ih =>
      rw [List.forall_mem_cons] at hdelivers
      have hattends := attends_play hordered hdelivers.1
      have hfirst := (hattends.covered_or kind).resolve_left hnever.1
      exact hfirst.trans (ih hattends.ordered hdelivers.2 hnever.2)

/-- A window that is covered in the beginning was covered for a last time. -/
theorem exists_last_covered {kind : SequenceKind} (hcovered : simulation.Covered kind)
    (moves : List Move) :
    ∃ before after, moves = before ++ after ∧ (simulation.playAll before).Covered kind ∧
      (simulation.playAll before).NeverCovered kind after := by
  have hlast : ∀ (moves : List Move) (simulation : Simulation Archive),
      simulation.NeverCovered kind moves ∨
        ∃ before after, moves = before ++ after ∧ (simulation.playAll before).Covered kind ∧
          (simulation.playAll before).NeverCovered kind after := by
    intro moves
    induction moves with
    | nil => exact fun _ => Or.inl trivial
    | cons move rest ih =>
        intro simulation
        -- the last time lies in the rest, or it is right after this move, or there is none
        rcases ih (simulation.play move) with hnever | ⟨before, after, rfl, hlater⟩
        · by_cases hnow : (simulation.play move).Covered kind
          · exact Or.inr ⟨[move], rest, rfl, hnow, hnever⟩
          · exact Or.inl ⟨hnow, hnever⟩
        · exact Or.inr ⟨move :: before, after, rfl, hlater⟩
  rcases hlast moves simulation with hnever | hfound
  · exact ⟨[], moves, rfl, hcovered, hnever⟩
  · exact hfound

/-- When nothing is pending any more, nothing is on its way. -/
theorem Ordered.promises_iff (hordered : simulation.Ordered) (hquiet : simulation.pending = [])
    (kind : SequenceKind) (index : Nat) :
    simulation.session.scope.Promises kind index ↔
      simulation.session.scope.Holds kind index :=
  RunScope.promises_iff_of_not_marked (hordered.backed.not_marked hquiet) kind index

/-- When nothing is pending any more, a visible slot is empty exactly when a fetch of its
page once fell short of it and the window was never covered again. -/
theorem empty_slot_iff (config : Config) (valid : config.Valid) (additions : List Addition)
    (moves : List Move) (hdelivers : ∀ move ∈ moves, move.Delivers)
    (hquiet : ((opening config valid additions).playAll moves).pending = [])
    (kind : SequenceKind) (index : Nat)
    (hvisible : index ∈
      ((opening config valid additions).playAll moves).session.scope.visibleRange kind) :
    ¬ ((opening config valid additions).playAll moves).session.scope.Holds kind index ↔
      ∃ before after, moves = before ++ after ∧
        ((opening config valid additions).playAll before).session.scope.FallsShort kind index ∧
        ((opening config valid additions).playAll before).NeverCovered kind after := by
  have hopening := ordered_opening config valid additions
  have hfinal := ordered_playAll hopening hdelivers
  -- from any moment after which the window is not covered, the schedule is steady
  have hsteady : ∀ before after, moves = before ++ after →
      ((opening config valid additions).playAll before).NeverCovered kind after →
        RunScope.Steady ((opening config valid additions).playAll before).session.scope
          ((opening config valid additions).playAll moves).session.scope kind := by
    rintro before after rfl hnever
    rw [playAll_append]
    refine steady_of_neverCovered (ordered_playAll hopening fun move hmem => ?_)
      (fun move hmem => ?_) hnever
    · exact hdelivers move (List.mem_append_left after hmem)
    · exact hdelivers move (List.mem_append_right before hmem)
  rw [← hfinal.promises_iff hquiet]
  constructor
  · -- the window was covered for a last time, at the latest when it showed no slot
    intro hlost
    have hempty : (opening config valid additions).Covered kind :=
      RunScope.covered_of_numItems_eq_zero (hopening.fed.empty rfl kind)
    obtain ⟨before, after, hsplit, hcovered, hnever⟩ := exists_last_covered hempty moves
    have hkept := hsteady before after hsplit hnever
    rw [hkept.promises_iff] at hlost
    rw [hkept.visibleRange_eq] at hvisible
    exact ⟨before, after, hsplit,
      (RunScope.not_promises_iff_of_covered hcovered hvisible).mp hlost, hnever⟩
  · rintro ⟨before, after, hsplit, hshort, hnever⟩
    rw [(hsteady before after hsplit hnever).promises_iff]
    exact RunScope.not_promises_of_fallsShort hshort

/-! ## A slot that is lost -/

/-- Pages of two items, both of which are shown. -/
def pairs : Config := { executions := ⟨2, 2⟩, graphExecutions := ⟨2, 2⟩ }

/-- A run of one execution. -/
def single : List Addition := [.run "a" 1, .execution "a" (Sample.execution "Op0" [])]

/-- A second execution is recorded, and the total reports it, while the page that was
asked for before is being fetched.  Then everything is delivered. -/
def lateGrowth : List Move :=
  [.send .runsRequested, .deliver 0, .deliver 0,
    .add (.execution "a" (Sample.execution "Op1" [])), .send .refresh, .deliver 5] ++
    List.replicate 8 (.deliver 0)

theorem delivers_lateGrowth : ∀ move ∈ lateGrowth, move.Delivers := by
  simp [lateGrowth, Move.Delivers, Event.isUser]

/-- In the end nothing is pending, two slots are visible, and the second is empty. -/
theorem playAll_lateGrowth :
    let simulation := (opening pairs (by decide) single).playAll lateGrowth
    simulation.pending.length = 0 ∧
      simulation.session.scope.visibleRange .executions = ⟨0, 2⟩ ∧
      simulation.session.scope.executions.digests.items.contains 1 = false := by
  cbv

/-- The second slot is lost, for the reason that the theorem gives. -/
theorem empty_slot_after_lateGrowth :
    let simulation := (opening pairs (by decide) single).playAll lateGrowth
    simulation.pending = [] ∧ 1 ∈ simulation.session.scope.visibleRange .executions ∧
      ¬ simulation.session.scope.Holds .executions 1 ∧
      ∃ before after, lateGrowth = before ++ after ∧
        ((opening pairs (by decide) single).playAll before).session.scope.FallsShort
          .executions 1 ∧
        ((opening pairs (by decide) single).playAll before).NeverCovered .executions after := by
  intro simulation
  obtain ⟨hpending, hrange, hempty⟩ := playAll_lateGrowth
  have hquiet : simulation.pending = [] := List.length_eq_zero_iff.mp hpending
  have hvisible : 1 ∈ simulation.session.scope.visibleRange .executions := by
    rw [show simulation.session.scope.visibleRange .executions = ⟨0, 2⟩ from hrange]
    decide
  have hlost : ¬ simulation.session.scope.Holds .executions 1 := by
    intro hheld
    exact absurd (Std.ExtTreeMap.contains_iff_mem.mpr hheld) (Bool.eq_false_iff.mp hempty)
  exact ⟨hquiet, hvisible, hlost, (empty_slot_iff pairs (by decide) single lateGrowth
    delivers_lateGrowth hquiet .executions 1 hvisible).mp hlost⟩

/-- So a window need not be full when every fetch was answered. -/
theorem not_all_slots_held :
    ¬ ∀ (config : Config) (valid : config.Valid) (additions : List Addition)
        (moves : List Move), (∀ move ∈ moves, move.Delivers) →
      ((opening config valid additions).playAll moves).pending = [] →
        ∀ kind, ∀ index ∈
          ((opening config valid additions).playAll moves).session.scope.visibleRange kind,
            ((opening config valid additions).playAll moves).session.scope.Holds kind index := by
  intro hclaim
  obtain ⟨hpending, hrange, hempty⟩ := playAll_lateGrowth
  have hheld := hclaim pairs (by decide) single lateGrowth delivers_lateGrowth
    (List.length_eq_zero_iff.mp hpending) .executions 1 (by rw [hrange]; decide)
  exact absurd (Std.ExtTreeMap.contains_iff_mem.mpr hheld) (Bool.eq_false_iff.mp hempty)

end Simulation

end TraceViewer
