import TraceViewer.Archive

/-!
# Sample records and runs

Small records with most of their fields fixed, and two kinds of runs made of them:
a run of executions without call stacks, and a run whose executions have call stacks
in two source files.
-/

namespace TraceViewer.Sample

/-- The host of every sample record. -/
def host : String := "localhost"

/-! ## Records -/

/-- A top-level execution with a given call stack. -/
def execution (opType : String) (frameIds : List FrameId) : Execution :=
  { opType
    outputDeviceIds := ["d0"]
    hostName := host
    frameIds
    debugMode := .curtHealth
    graphId := none
    inputTensorIds := []
    outputTensorIds := []
    debugTensorValues := none }

/-- An execution of an op inside a graph. -/
def graphExecution (graphId opName : String) (outputSlot : UInt32) : GraphExecution :=
  { graphId
    opName
    opType := "Identity"
    outputSlot
    graphIds := [graphId]
    debugMode := .curtHealth
    debugTensorValue := none
    deviceName := "d0" }

/-- An op that reads the first output of each of `inputs`, and whose only output is
the first input of each of `consumers`. -/
def graphOp (graphId opName : String) (inputs consumers : List String) : GraphOp :=
  { opType := "Identity"
    opName
    graphIds := [graphId]
    numOutputs := 1
    hostName := host
    deviceName := none
    frameIds := []
    inputs := inputs.map fun name => { opName := name, outputSlot := 0, data := none }
    consumers := [consumers.map fun name => { opName := name, inputSlot := 0, data := none }] }

/-- A stack frame. -/
def frame (filePath : String) (lineNumber : UInt32) (functionName : String) : StackFrame :=
  { hostName := host, filePath, lineNumber, functionName }

/-- A source file. -/
def file (filePath : String) : SourceFile := { hostName := host, filePath }

/-- An alert about values that are infinite or no numbers. -/
def infNanAlert (executionIndex : Nat) (graphExecutionIndex : Option Nat) : Alert :=
  .infNan
    { opType := "RealDiv"
      outputSlot := 0
      size := 10
      numNegInf := 0
      numPosInf := 1
      numNaN := 2
      executionIndex
      graphExecutionIndex }

/-- An alert about a function that was compiled too often. -/
def recompileAlert (functionName : String) : Alert :=
  .functionRecompiles { functionName, numCompiles := 5 }

/-! ## Runs -/

/-- The executions `Op0`, `Op1`, … with the call stacks that `frameIds` gives them. -/
def executions (count : Nat) (frameIds : Nat → List FrameId) : List Execution :=
  (List.range count).map fun index => execution s!"Op{index}" (frameIds index)

/-- An archive with one run that started at time zero. -/
def archiveOf (run : RunId) (recording : Recording) : Archive :=
  (({} : Archive).addRun run 0.0).modifyRun run fun started =>
    { recording with metadata := started.metadata }

/-- A run of executions without call stacks. -/
def linearRun (run : RunId) (count : Nat) : Archive :=
  archiveOf run { executions := executions count fun _ => [] }

/-- The lines of a sample source file, thirty of them. -/
def sourceLines (filePath : String) : List String :=
  (List.range' 1 30).map fun number => s!"# {filePath}:{number}"

/-- A run whose executions are called from `main` in one file and run `inner` in
another, at two lines by turns. -/
def stackedRun (run : RunId) (count : Nat) : Archive :=
  archiveOf run
    { executions := executions count fun index =>
        if index % 2 = 0 then ["f2", "f1"] else ["f2", "f3"]
      frames := .ofList
        [("f1", frame "/file2.py" 10 "inner"), ("f2", frame "/file1.py" 5 "main"),
          ("f3", frame "/file2.py" 20 "inner")]
      sourceFiles := .ofList
        (["/file1.py", "/file2.py"].map fun path => (file path, sourceLines path)) }

end TraceViewer.Sample
