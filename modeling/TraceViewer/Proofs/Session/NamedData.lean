import TraceViewer.Proofs.Session.TimelineEffort
import TraceViewer.Proofs.Session.Wants

/-!
# Data that are fetched by name

Records of executions, stack frames, ops, source files and the alerts of a kind are fetched by
name, apart from the pages of the sequences.  Requests and replies name such data
(`Request.data`, `Reply.data`), and a reply *answers* what it names unless it is refused for
another reason than being malformed (`Reply.answers`).

The data that a queue of fetches names are `dataOf` the queue.  What settling wants is such data
(`Wants.data_command`), and it names none twice (`Wants.nodup_data`).  Moving a window and taking
up a total or a page only ask for pages, which name none (`Timeline.dataOf_scroll`,
`Timeline.dataOf_onTotal`, `Timeline.dataOf_onPage`).
-/

namespace TraceViewer

/-! ## Requests and replies -/

/-- A piece of data that is fetched on its own: the record of an execution, a stack frame, a
graph op, a source file, or the alerts of a kind. -/
inductive Datum where
  | record (index : Nat)
  | frame (id : FrameId)
  | op (key : GraphOpKey)
  | file (file : SourceFile)
  | alerts (alertType : AlertType)
deriving DecidableEq

/-- The data that a request names. -/
def Request.data : Request → List Datum
  | .executionData range => range.indices.map .record
  | .stackFrames ids => ids.map .frame
  | .graphOpInfo key => [.op key]
  | .sourceFile file => [.file file]
  | .alertsOfType alertType _ => [.alerts alertType]
  | .numExecutions | .numGraphExecutions | .page _ _ | .sourceFileList
  | .numAlertsAndBreakdown => []

/-- The data that a reply names.  An op without a graph around it names none. -/
def Reply.data : Reply → List Datum
  | .executionData range _ => range.indices.map .record
  | .stackFrames frames => frames.keys.map .frame
  | .graphOpInfo op => op.graphId?.toList.map fun graphId => .op { graphId, opName := op.opName }
  | .sourceFile file _ => [.file file]
  | .alertsOfType alertType _ _ _ => [.alerts alertType]
  | .numExecutions _ | .numGraphExecutions _ | .executionDigests _ | .graphExecutions _
  | .sourceFileList _ | .numAlertsAndBreakdown _ => []

/-- The data that a reply answers: those that it names, if it was accepted or refused as
malformed. -/
def Reply.answers {α : Type} (reply : Reply) : Except ViewError α → List Datum
  | .ok _ | .error (.invalidArgument _) => reply.data
  | .error _ => []

/-! ## Queues of fetches -/

/-- The record or the op of an origin. -/
def FocusOrigin.datum : FocusOrigin → Datum
  | .execution index => .record index
  | .graphOpCreation key => .op key

theorem FocusOrigin.data_request (origin : FocusOrigin) : origin.request.data = [origin.datum] := by
  cases origin with
  | execution index => simp [request, Request.data, Interval.indices, Interval.length, datum]
  | graphOpCreation key => rfl

/-- The data that are wanted. -/
def Wants.data (wants : Wants) : List Datum :=
  wants.origin.toList.map FocusOrigin.datum ++
    (wants.frames.map .frame ++ wants.file.toList.map .file)

/-- The data that a queue of fetches names. -/
def dataOf (queue : List PendingFetch) : List Datum :=
  queue.flatMap fun
    | .runs => []
    | .data _ request => request.data

@[simp]
theorem dataOf_nil : dataOf [] = [] := rfl

@[simp]
theorem dataOf_append (first second : List PendingFetch) :
    dataOf (first ++ second) = dataOf first ++ dataOf second := List.flatMap_append

@[simp]
theorem dataOf_singleton (run : RunId) (request : Request) :
    dataOf [.data run request] = request.data := List.append_nil _

namespace Wants

theorem data_command (wants : Wants) (run : RunId) :
    dataOf (wants.command run).queue = wants.data := by
  obtain ⟨origin, frames, file⟩ := wants
  rw [queue_command, dataOf_append, dataOf_append, data]
  congr 1
  · cases origin with
    | none => rfl
    | some origin => exact (dataOf_singleton run origin.request).trans origin.data_request
  · congr 1
    · dsimp only
      -- without frames there is no fetch of frames
      split_ifs with hnone
      · rw [hnone]
        rfl
      · exact dataOf_singleton run (.stackFrames frames)
    · cases file <;> rfl

theorem mem_data {wants : Wants} {datum : Datum} :
    datum ∈ wants.data ↔
      (∃ origin, wants.origin = some origin ∧ origin.datum = datum) ∨
        (∃ id ∈ wants.frames, .frame id = datum) ∨
          ∃ file, wants.file = some file ∧ .file file = datum := by
  simp [data]

theorem nodup_data (wants : Wants) (hnodup : wants.frames.Nodup) : wants.data.Nodup := by
  obtain ⟨origin, frames, file⟩ := wants
  have hframes : (frames.map Datum.frame).Nodup :=
    List.pairwise_map.mpr (hnodup.imp fun hne hsame => hne (Datum.frame.inj hsame))
  have hother : ∀ origin : FocusOrigin, origin.datum ∉ frames.map Datum.frame ∧
      ∀ file, origin.datum ≠ .file file := by
    intro origin
    cases origin <;> simp [FocusOrigin.datum]
  rw [data]
  cases origin <;> cases file <;> simp [hframes, hother, List.nodup_append]

end Wants

/-! ## Fetches for a sequence -/

namespace Timeline

variable {α : Type} (timeline : Timeline α) (run : RunId)

theorem data_totalRequest (kind : SequenceKind) : (totalRequest kind).data = [] := by
  cases kind <;> rfl

theorem dataOf_issue (demand : PageDemand) :
    dataOf (timeline.issue run demand).2.queue = [] := by
  rw [issue]
  split_ifs
  · rfl
  · rw [Command.queue_combine, dataOf, List.flatMap_eq_nil_iff]
    intro fetch hfetch
    simp only [List.flatMap_map, Command.queue, List.mem_flatMap, List.mem_singleton] at hfetch
    obtain ⟨range, _, rfl⟩ := hfetch
    rfl

theorem dataOf_scroll (step : ScrollStep) :
    dataOf (Command.queueOf (timeline.scroll run step).2) = [] := by
  rw [scroll]
  rcases moveView timeline.view step with ⟨view, error | demand⟩
  · rfl
  · exact dataOf_issue { timeline with view } run demand

theorem dataOf_onTotal (total now : Nat) :
    dataOf (Command.queueOf ((timeline.onTotal run total now).2.map Prod.fst)) = [] := by
  rw [onTotal]
  rcases timeline.view.setNumItems total with ⟨view, error | demand⟩
  · rfl
  · exact dataOf_issue _ run demand

theorem dataOf_onPage (batch : Batch α) (now : Nat) :
    dataOf (Command.queueOf ((timeline.onPage run batch now).2.map Prod.fst)) = [] := by
  by_cases haccepts : timeline.view.sequence.Accepts batch
  · by_cases hgrew : timeline.numItems < batch.total
    · rw [onPage_of_grown haccepts hgrew]
      rcases (timeline.merged batch now).view.resolveWindow with ⟨view, error | demand⟩
      · rfl
      · exact dataOf_issue _ run demand
    · rw [onPage_of_accepts_le haccepts (Nat.not_lt.mp hgrew)]
      rfl
  · obtain ⟨error, hrefused⟩ := onPage_of_not_accepts haccepts run now
    rw [hrefused]
    rfl

end Timeline

end TraceViewer
