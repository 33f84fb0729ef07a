import TraceViewer.Command
import TraceViewer.Event
import TraceViewer.Wire.Fetch

/-!
# Events and commands on the wire

An event is a union whose tag `msg` is its name, a command one whose tag is `cmd`.
A batch holds commands, so reading recurses on the depth of the JSON value.
-/

namespace TraceViewer

namespace Event

/-- The event that a union describes. -/
def ofJson? (json : Json) : Option Event := do
  let (tag, content) ← json.union? "msg"
  let fields ← content.fields?
  let kind := fields.required "sequence" SequenceKind.ofJson?
  let key := fields.required "key" GraphOpKey.ofJson?
  let run := fields.required "run" Json.string?
  match ← tag.string? with
  | "RunsRequested" => return .runsRequested
  | "RunsLoaded" => return .runsLoaded (← fields.required "runs" RunListing.ofJson?)
  | "RunsFailed" => return .runsFailed
  | "ActiveRunChanged" => return .activeRunChanged (← fields.nullable "run" Json.string?)
  | "PollStarted" => return .pollStarted
  | "Refresh" => return .refresh
  | "ScrollLeft" => return .scrollLeft (← kind)
  | "ScrollRight" => return .scrollRight (← kind)
  | "ScrollToIndex" => return .scrollToIndex (← kind) (← fields.required "index" Json.nat?)
  | "FocusByDisplayOffset" =>
    return .focusByDisplayOffset (← kind) (← fields.required "offset" Json.nat?)
  | "AlertTypeFocusToggled" =>
    return .alertTypeFocusToggled (← fields.required "alert_type" AlertType.ofJson?)
  | "GraphOpFocused" => return .graphOpFocused (← key)
  | "GraphOpInfoRequested" => return .graphOpInfoRequested (← key)
  | "SourceLineClicked" =>
    return .sourceLineClicked (← fields.required "frame" StackFrame.ofJson?)
  | "SourceFileRequested" =>
    return .sourceFileRequested (← fields.required "file" SourceFile.ofJson?)
  | "StickyFocusSet" => return .stickyFocusSet (← fields.required "sticky" Json.bool?)
  | "Loaded" => return .loaded (← run) (← fields.required "response" Reply.ofJson?)
  | "FetchFailed" => return .fetchFailed (← run) (← fields.required "request" Request.ofJson?)
  | _ => none

end Event

namespace Command

mutual

/-- A command as a union with the tag `cmd`. -/
def toJson : Command → Json
  | .none => .object [("cmd", .string "none")]
  | .fetchRuns => .object [("cmd", .string "fetch_runs")]
  | .fetch run request =>
    .object [("cmd", .string "fetch"), ("run", .string run), ("request", request.toJson)]
  | .batch commands =>
    .object [("cmd", .string "batch"), ("cmds", .array (listToJson commands))]

/-- Commands, one by one. -/
def listToJson : List Command → List Json
  | [] => []
  | command :: rest => command.toJson :: listToJson rest

end

/-- The command that a union describes, nested at most `depth` deep. -/
def ofJsonWithin? : Nat → Json → Option Command
  | 0, _ => Option.none
  | depth + 1, json => do
    let (tag, content) ← json.union? "cmd"
    let fields ← content.fields?
    match ← tag.string? with
    | "none" => return .none
    | "fetch_runs" => return .fetchRuns
    | "fetch" =>
      return .fetch (← fields.required "run" Json.string?)
        (← fields.required "request" Request.ofJson?)
    | "batch" =>
      return .batch (← fields.required "cmds" (Json.list? (ofJsonWithin? depth)))
    | _ => Option.none

/-- The command that a union describes. -/
def ofJson? (json : Json) : Option Command := ofJsonWithin? json.depth json

end Command

end TraceViewer
