import Mathlib.Data.List.Nodup
import TraceViewer.Session.InputTrace

/-!
# The nearest execution of every input

Every input of an op was computed by an earlier execution of the same graph.  Which one it is
traced to can be said without a search (`nearest?`): of those within reach that computed what the
input reads, the one of the largest index.

The search goes back once for all inputs, drops each input at its first match, and stops when none
is left.  That loses nothing.  Every input is found where it would be found if it were sought alone
(`mem_hits`), the last one as much as the first, and however many of them one execution serves.
Going back over a sequence, the first match is the nearest (`find?_backwards`).
-/

namespace TraceViewer.InputTrace

variable {graphId : String} {executions : PagedSequence GraphExecution} {range : Interval}
  {entries : List (Nat × GraphExecution)} {placed : List (OpInput GraphOp × Nat)}

/-! ## What an input is traced to -/

/-- Whether an execution belongs to a graph and computed what an input reads. -/
def computes (graphId : String) (input : OpInput GraphOp) (execution : GraphExecution) : Bool :=
  execution.graphId = graphId ∧ execution.opName = input.opName ∧
    execution.outputSlot = input.outputSlot

/-- The execution that an input is traced to: of those held in a range that computed what the
input reads, the one of the largest index. -/
def nearest? (executions : PagedSequence GraphExecution) (graphId : String) (range : Interval)
    (input : OpInput GraphOp) : Option Nat :=
  (range.indices.filter fun index =>
    (executions.items[index]?).any (computes graphId input)).max?

theorem computes_eq_matchesInput {execution : GraphExecution}
    (hgraph : execution.graphId = graphId) (input : OpInput GraphOp) :
    computes graphId input execution = matchesInput execution input := by
  simp [computes, matchesInput, hgraph]

theorem computes_of_ne {execution : GraphExecution} (hgraph : execution.graphId ≠ graphId)
    (input : OpInput GraphOp) : computes graphId input execution = false := by
  simp [computes, hgraph]

/-! ## Going back -/

theorem mem_backwards {entry : Nat × GraphExecution} :
    entry ∈ executions.backwards range ↔
      entry.1 ∈ range ∧ executions.items[entry.1]? = some entry.2 := by
  obtain ⟨index, execution⟩ := entry
  simp [PagedSequence.backwards, Std.ExtTreeMap.mem_toList_iff_getElem?_eq_some, and_comm]

theorem backwards_descending (executions : PagedSequence GraphExecution) (range : Interval) :
    (executions.backwards range).Pairwise fun later earlier => earlier.1 < later.1 := by
  rw [PagedSequence.backwards, List.pairwise_reverse]
  refine (Std.ExtTreeMap.ordered_keys_toList.filter _).imp fun hlt => ?_
  exact Nat.compare_eq_lt.mp hlt

/-- The first match on the way back is the one of the largest index. -/
theorem find?_of_descending
    (hdescending : entries.Pairwise fun later earlier => earlier.1 < later.1)
    (wanted : Nat × GraphExecution → Bool) (found : Nat) :
    (entries.find? wanted).map Prod.fst = some found ↔
      (∃ entry ∈ entries, wanted entry = true ∧ entry.1 = found) ∧
        ∀ entry ∈ entries, wanted entry = true → entry.1 ≤ found := by
  induction entries with
  | nil => simp
  | cons first rest ih =>
      obtain ⟨hfirst, hrest⟩ := List.pairwise_cons.mp hdescending
      rw [List.find?_cons]
      cases hwanted : wanted first with
      | true =>
          -- the first one that is wanted is the largest, as the rest lie below it
          simp only [Option.map_some, Option.some.injEq]
          constructor
          · rintro rfl
            refine ⟨⟨first, List.mem_cons_self, hwanted, rfl⟩, fun entry hentry _ => ?_⟩
            rcases List.mem_cons.mp hentry with rfl | hentry
            · exact Nat.le_refl _
            · exact Nat.le_of_lt (hfirst entry hentry)
          · rintro ⟨⟨entry, hentry, _, rfl⟩, hlargest⟩
            have hle := hlargest first List.mem_cons_self hwanted
            rcases List.mem_cons.mp hentry with rfl | hentry
            · rfl
            · exact absurd (hfirst entry hentry) (Nat.not_lt.mpr hle)
      | false =>
          rw [ih hrest]
          simp [hwanted]

/-- An input that is sought alone is found where it is traced to. -/
theorem find?_backwards (executions : PagedSequence GraphExecution) (graphId : String)
    (range : Interval) (input : OpInput GraphOp) :
    ((executions.backwards range).find? fun entry => computes graphId input entry.2).map Prod.fst =
      nearest? executions graphId range input := by
  refine Option.ext fun found => ?_
  rw [find?_of_descending (backwards_descending executions range), nearest?,
    List.max?_eq_some_iff]
  simp only [List.mem_filter, Interval.mem_indices, Option.any_eq_true, mem_backwards]
  constructor
  · rintro ⟨⟨⟨_, execution⟩, ⟨hreach, hheld⟩, hcomputes, rfl⟩, hlargest⟩
    refine ⟨⟨hreach, execution, hheld, hcomputes⟩, ?_⟩
    rintro other ⟨hother, execution, hheld, hcomputes⟩
    exact hlargest (other, execution) ⟨hother, hheld⟩ hcomputes
  · rintro ⟨⟨hreach, execution, hheld, hcomputes⟩, hlargest⟩
    refine ⟨⟨(found, execution), ⟨hreach, hheld⟩, hcomputes, rfl⟩, ?_⟩
    rintro ⟨other, execution⟩ ⟨hother, hheld⟩ hcomputes
    exact hlargest other ⟨hother, execution, hheld, hcomputes⟩

/-! ## Hits -/

/-- What the walk finds, each index with the place of the input that was found there.  Unlike the
walk, this goes on to the end. -/
def hits (graphId : String) :
    List (OpInput GraphOp × Nat) → List (Nat × GraphExecution) → List (Nat × Nat)
  | _, [] => []
  | placed, (index, execution) :: earlier =>
    ((placed.filter fun input => computes graphId input.1 execution).map fun input =>
        (index, input.2)) ++
      hits graphId (placed.filter fun input => !computes graphId input.1 execution) earlier

/-- When no input is left, nothing is found any more. -/
theorem hits_nil (graphId : String) (entries : List (Nat × GraphExecution)) :
    hits graphId [] entries = [] := by
  induction entries with
  | nil => rfl
  | cons entry rest ih => simpa [hits] using ih

theorem map_fst_hits (graphId : String) (placed : List (OpInput GraphOp × Nat))
    (entries : List (Nat × GraphExecution)) :
    (hits graphId placed entries).map Prod.fst = walk graphId (placed.map Prod.fst) entries := by
  induction entries generalizing placed with
  | nil => rfl
  | cons entry earlier ih =>
      obtain ⟨index, execution⟩ := entry
      rw [walk]
      split_ifs with hempty hgraph
      · rw [List.isEmpty_iff, List.map_eq_nil_iff] at hempty
        rw [hempty, hits_nil, List.map_nil]
      · have hmatches : ∀ input, computes graphId input execution = matchesInput execution input :=
          computes_eq_matchesInput hgraph
        simp only [hits, hmatches, List.map_append, ih, List.filter_map, List.map_map]
        rfl
      · have hnone : ∀ input, computes graphId input execution = false := computes_of_ne hgraph
        simpa [hits, hnone] using ih placed

/-- Every input is found where it would be found if it were sought alone. -/
theorem mem_hits {found place : Nat} :
    (found, place) ∈ hits graphId placed entries ↔
      ∃ input, (input, place) ∈ placed ∧
        (entries.find? fun entry => computes graphId input entry.2).map Prod.fst =
          some found := by
  induction entries generalizing placed with
  | nil => simp [hits]
  | cons entry earlier ih =>
      obtain ⟨index, execution⟩ := entry
      rw [hits, List.mem_append, ih, List.mem_map]
      constructor
      · rintro (⟨⟨input, _⟩, hmem, hsame⟩ | ⟨input, hmem, hfound⟩)
        · obtain ⟨hplaced, hcomputes⟩ := List.mem_filter.mp hmem
          cases hsame
          exact ⟨input, hplaced, by rw [List.find?_cons, hcomputes]; rfl⟩
        · obtain ⟨hplaced, hcomputes⟩ := List.mem_filter.mp hmem
          rw [Bool.not_eq_true'] at hcomputes
          exact ⟨input, hplaced, by rw [List.find?_cons, hcomputes]; exact hfound⟩
      · rintro ⟨input, hplaced, hfound⟩
        rw [List.find?_cons] at hfound
        -- an input is found at the first entry that computes it, and not looked for after that
        cases hcomputes : computes graphId input execution with
        | true =>
            rw [hcomputes] at hfound
            cases hfound
            exact Or.inl ⟨(input, place), List.mem_filter.mpr ⟨hplaced, hcomputes⟩, rfl⟩
        | false =>
            rw [hcomputes] at hfound
            refine Or.inr ⟨input, List.mem_filter.mpr ⟨hplaced, ?_⟩, hfound⟩
            rw [hcomputes]
            rfl

/-- The inputs that are found are those that would be found if they were sought alone. -/
theorem length_hits (graphId : String) (placed : List (OpInput GraphOp × Nat))
    (entries : List (Nat × GraphExecution)) :
    (hits graphId placed entries).length =
      placed.countP fun input =>
        (entries.find? fun entry => computes graphId input.1 entry.2).isSome := by
  induction entries generalizing placed with
  | nil => simp [hits]
  | cons entry earlier ih =>
      obtain ⟨index, execution⟩ := entry
      -- an input is counted here, or else by the rest of the walk
      have hhere : ∀ input ∈ placed.filter fun input => computes graphId input.1 execution,
          (((index, execution) :: earlier).find? fun entry =>
            computes graphId input.1 entry.2).isSome = true := by
        intro input hinput
        rw [List.find?_cons, (List.mem_filter.mp hinput).2]
        rfl
      have hlater : ∀ input ∈ placed.filter fun input => !computes graphId input.1 execution,
          (((index, execution) :: earlier).find? fun entry =>
              computes graphId input.1 entry.2).isSome = true ↔
            (earlier.find? fun entry => computes graphId input.1 entry.2).isSome = true := by
        intro input hinput
        have hcomputes := (List.mem_filter.mp hinput).2
        rw [Bool.not_eq_true'] at hcomputes
        rw [List.find?_cons, hcomputes]
      rw [hits, List.length_append, List.length_map, ih,
        List.countP_eq_countP_filter_add placed _ fun input => computes graphId input.1 execution,
        List.countP_eq_length.mpr hhere, List.countP_congr hlater]

/-- What is found is in the order of the walk, and at one execution in the order of the inputs. -/
def Before (first second : Nat × Nat) : Prop :=
  second.1 < first.1 ∨ first.1 = second.1 ∧ first.2 < second.2

theorem hits_ordered
    (hdescending : entries.Pairwise fun later earlier => earlier.1 < later.1)
    (hplaces : placed.Pairwise fun first second => first.2 < second.2) :
    (hits graphId placed entries).Pairwise Before := by
  induction entries generalizing placed with
  | nil => exact .nil
  | cons entry earlier ih =>
      obtain ⟨index, execution⟩ := entry
      obtain ⟨hfirst, hrest⟩ := List.pairwise_cons.mp hdescending
      rw [hits, List.pairwise_append]
      refine ⟨?_, ih hrest (hplaces.filter _), ?_⟩
      · rw [List.pairwise_map]
        exact (hplaces.filter _).imp fun hlt => Or.inr ⟨rfl, hlt⟩
      · -- the walk is past the first index when it finds the others
        rintro _ hhere ⟨found, place⟩ hlater
        obtain ⟨_, _, rfl⟩ := List.mem_map.mp hhere
        obtain ⟨_, _, hfound⟩ := mem_hits.mp hlater
        obtain ⟨later, hsome, rfl⟩ := Option.map_eq_some_iff.mp hfound
        exact Or.inl (hfirst later (List.mem_of_find?_eq_some hsome))

/-- No input is found twice. -/
theorem nodup_places (hnodup : (placed.map Prod.snd).Nodup)
    (hordered : (hits graphId placed entries).Pairwise Before) :
    ((hits graphId placed entries).map Prod.snd).Nodup := by
  refine List.pairwise_map.mpr (hordered.imp_of_mem ?_)
  rintro ⟨found, place⟩ ⟨other, _⟩ hhit hhit' hbefore rfl
  obtain ⟨input, hmem, hfound⟩ := mem_hits.mp hhit
  obtain ⟨input', hmem', hfound'⟩ := mem_hits.mp hhit'
  -- the place tells the input, and the input tells where it is found
  cases List.inj_on_of_nodup_map hnodup hmem hmem' rfl
  cases hfound.symm.trans hfound'
  rcases hbefore with hlt | ⟨_, hlt⟩ <;> exact Nat.lt_irrefl _ hlt

/-! ## The inputs of the focused execution -/

/-- The answer is missing exactly when something is missing that it needs. -/
theorem indices_eq_none_iff {focus : Option Nat} {inputs : Option (List (OpInput GraphOp))}
    {maxLookBack : Nat} :
    indices focus executions inputs maxLookBack = none ↔
      focus = none ∨ inputs = none ∨ ∃ index, focus = some index ∧ index ∉ executions.items := by
  rw [indices]
  cases focus with
  | none => simp
  | some index =>
      cases inputs with
      | none => simp
      | some wanted =>
          simp only [Option.bind_eq_bind, Option.bind_some, reduceCtorEq, false_or,
            Option.some.injEq, exists_eq_left']
          rw [Std.ExtTreeMap.mem_iff_isSome_getElem?]
          cases executions.items[index]? <;> simp

/-- The answer is what is found for the inputs, each in its place. -/
theorem indices_eq_hits {index : Nat} {focused : GraphExecution}
    (hheld : executions.items[index]? = some focused) (wanted : List (OpInput GraphOp))
    (maxLookBack : Nat) :
    indices (some index) executions (some wanted) maxLookBack =
      some ((hits focused.graphId wanted.zipIdx
        (executions.backwards ⟨index - maxLookBack, index⟩)).map Prod.fst) := by
  simp only [indices, Option.bind_eq_bind, Option.bind_some, hheld, map_fst_hits,
    List.zipIdx_map_fst]
  rfl

/-- An input is found where it is traced to. -/
theorem mem_hits_backwards {wanted : List (OpInput GraphOp)} {found place : Nat} :
    (found, place) ∈ hits graphId wanted.zipIdx (executions.backwards range) ↔
      ∃ input, wanted[place]? = some input ∧
        nearest? executions graphId range input = some found := by
  simp only [mem_hits, find?_backwards, List.mk_mem_zipIdx_iff_getElem?]

/-- What an input is traced to is held within reach and computed what the input reads. -/
theorem computes_of_nearest? {input : OpInput GraphOp} {found : Nat}
    (hnearest : nearest? executions graphId range input = some found) :
    found ∈ range ∧
      ∃ execution, executions.items[found]? = some execution ∧
        computes graphId input execution = true := by
  have hmem := (List.max?_eq_some_iff.mp hnearest).1
  simpa only [List.mem_filter, Interval.mem_indices, Option.any_eq_true] using hmem

/-- The answer names for every input the nearest execution that computed it, if there is one within
reach, the nearest first and in the order of the inputs where several share one.  It is missing only
when there is no focus, no op whose inputs are wanted, or no record of the focused execution. -/
theorem indices_nearest (focus : Option Nat) (executions : PagedSequence GraphExecution)
    (inputs : Option (List (OpInput GraphOp))) (maxLookBack : Nat) :
    (indices focus executions inputs maxLookBack = none ↔
      focus = none ∨ inputs = none ∨ ∃ index, focus = some index ∧ index ∉ executions.items) ∧
    ∀ index wanted focused, focus = some index → inputs = some wanted →
      executions.items[index]? = some focused →
      let best := nearest? executions focused.graphId ⟨index - maxLookBack, index⟩
      ∃ found : List (Nat × Nat),
        indices focus executions inputs maxLookBack = some (found.map Prod.fst) ∧
        (∀ earlier place, (earlier, place) ∈ found ↔
          ∃ input, wanted[place]? = some input ∧ best input = some earlier) ∧
        found.Pairwise Before ∧
        (found.map Prod.snd).Nodup ∧
        found.length = wanted.countP fun input => (best input).isSome := by
  refine ⟨indices_eq_none_iff, ?_⟩
  rintro index wanted focused rfl rfl hheld best
  have hdescending := backwards_descending executions ⟨index - maxLookBack, index⟩
  have hplaces : wanted.zipIdx.Pairwise fun first second => first.2 < second.2 :=
    List.pairwise_map.mp (by rw [List.zipIdx_map_snd]; exact List.pairwise_lt_range')
  have hordered : (hits focused.graphId wanted.zipIdx (executions.backwards _)).Pairwise Before :=
    hits_ordered hdescending hplaces
  refine ⟨_, indices_eq_hits hheld wanted maxLookBack, fun _ _ => mem_hits_backwards, hordered,
    nodup_places ?_ hordered, ?_⟩
  · exact List.pairwise_map.mpr (hplaces.imp Nat.ne_of_lt)
  · have hfound : ∀ input : OpInput GraphOp,
        (((executions.backwards ⟨index - maxLookBack, index⟩).find? fun entry =>
          computes focused.graphId input entry.2).isSome) = (best input).isSome := by
      intro input
      rw [← Option.isSome_map, find?_backwards]
    calc _ = wanted.zipIdx.countP ((fun input => (best input).isSome) ∘ Prod.fst) := by
          simp only [length_hits, hfound, Function.comp_def]
      _ = wanted.countP fun input => (best input).isSome := by
          rw [← List.countP_map, List.zipIdx_map_fst]

/-- An op that reads one tensor twice, past an execution of another graph and a gap. -/
theorem nearest_of_repeated_input :
    let execution (graphId opName : String) : GraphExecution :=
      { (default : GraphExecution) with graphId, opName }
    let input (opName : String) : OpInput GraphOp := { opName, outputSlot := 0, data := none }
    let executions : PagedSequence GraphExecution :=
      ((PagedSequence.ofPageSize 10 (by decide)).putAll 0
        [execution "g" "a", execution "g" "b", execution "h" "b"]).putAll 5 [execution "g" "c"]
    let wanted := [input "b", input "a", input "b", input "z"]
    executions.items[5]? = some (execution "g" "c") ∧
      indices (some 5) executions (some wanted) 5 = some [1, 1, 0] ∧
      ∃ found : List (Nat × Nat),
        indices (some 5) executions (some wanted) 5 = some (found.map Prod.fst) ∧
        found.Pairwise Before ∧ (found.map Prod.snd).Nodup ∧ found.length = 3 := by
  intro execution input executions wanted
  have hheld : executions.items[5]? = some (execution "g" "c") := by
    rw [PagedSequence.getElem?_putAll]
    rfl
  obtain ⟨found, hindices, _, hordered, hnodup, hlength⟩ :=
    (indices_nearest (some 5) executions (some wanted) 5).2 5 wanted _ rfl rfl hheld
  have hcount : (wanted.countP fun input =>
      (nearest? executions "g" ⟨0, 5⟩ input).isSome) = 3 := by decide +kernel
  exact ⟨hheld, by decide +kernel, found, hindices, hordered, hnodup, hlength.trans hcount⟩

end TraceViewer.InputTrace
