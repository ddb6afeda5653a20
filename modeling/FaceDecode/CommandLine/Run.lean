import FaceDecode.CommandLine.Options
import FaceDecode.Detector.Basic
import FaceDecode.Input.Folders
import FaceDecode.Sink.Basic

namespace FaceDecode

inductive RunError where
  | input (failure : InputError)
  | settings (failure : SettingsError)
  | sink (failure : SinkError)
  | task (failure : TaskError InferError SinkError)

namespace RunError

def message : RunError → String
  | input failure => failure.message
  | settings failure => failure.message
  | sink failure => failure.message
  | task failure => failure.message InferError.message SinkError.message

def cause? : RunError → Option String
  | input (.layout _ cause) => some cause.message
  | sink failure => failure.cause?
  | task (.render failure) => failure.cause?
  | _ => none

def indented (text : String) : String :=
  "\n".intercalate ((text.splitOn "\n").map ("    " ++ ·))

/-- The exit code: runs whose times or pictures cannot be kept end the program at once. -/
def exitCode : RunError → UInt8
  | task (.tooManyRuns _) | task (.render (.picture (.tooLarge ..))) => 101
  | _ => 1

def report (e : RunError) : String :=
  "Error: " ++ e.message ++ "\n" ++
    ((e.cause?.map fun cause ↦ "\nCaused by:\n" ++ indented cause ++ "\n").getD "")

end RunError

/-- What the task of a run works on. -/
structure RunState where
  session : Session
  sink : Sink

namespace RunState

variable {ε α : Type}

def onSession (job : Job ε α) : Attempt RunState ε α := fun s ↦
  let (r, session) := job s.session
  (r, { s with session })

def onSink (step : Sink → Job ε α × Sink) : Attempt RunState ε α := fun s ↦
  let (job, sink) := step s.sink
  let (r, session) := job s.session
  (r, { session, sink })

def stage (d : Detector) : Stage RunState Frame Report InferError SinkError where
  note line := modify fun s ↦ { s with session.log := s.session.log.push line }
  infer frame := onSession (Job.ofLogging (d.infer frame))
  render _ report := onSink (Sink.render report)
  finish := onSink Sink.finish

/-- Frames that are read from the disk as it then is. -/
def feed (source : FrameFolders) : Feed RunState Frame :=
  source.folders.map fun folder s ↦
    let (frame, log) := source.loadFrame? s.session.disk folder s.session.log
    (frame, { s with session.log := log })

end RunState

def Task.perform (task : Task) (source : FrameFolders) (d : Detector) (sink : Sink) :
    Job RunError Unit := fun session ↦
  let (r, s) := task.run (RunState.stage d) (RunState.feed source) ⟨session, sink⟩
  (r.mapError .task, s.session)

def Program.run (program : Program) (plan : RunPlan) : Job RunError Unit := do
  Job.write .info s!"模型配置: {plan.model.text}"
  Job.write .info s!"输入来源: {plan.input.text}"
  Job.write .info s!"输出路径: {plan.output.text}"
  let disk := (← get).disk
  let source ← (Job.ofLogging (FrameFolders.ofAnyLocator disk plan.input)).mapError .input
  if program = .detection then Job.write .info s!"共 {source.folders.length} 帧待处理"
  let draft ← (Job.ofLogging (DetectorDraft.ofLocator plan.model)).mapError .settings
  let detector ← (Job.ofLogging (Detector.build draft)).mapError .settings
  let sink ← (Sink.ofLocator plan.output).mapError .sink
  plan.task.perform source detector sink

/-- What a command line comes to: an exit code, texts for the user and a session. -/
structure Outcome where
  exitCode : UInt8
  output : List String
  complaint : String
  session : Session

namespace Program

def name : Program → String
  | detection => "face-decode"
  | benchmark => "face-decode-benchmark"

def versionText (program : Program) : String := program.name ++ " 0.1.0"

def helpLine : Parameter → String
  | .model => "--model <MODEL>                 模型配置 [默认: retinaface:///]"
  | .input => "--input <SOURCE>                张量输入来源: npy:///路径, raw:///路径"
  | .output => "--output <OUTPUT>               输出: log:///, folder:///路径, image:///路径 [默认: log:///]"
  | .frameLimit => "--frame-number <FRAME_NUMBER>   最大处理帧数"
  | .once => "--once                          只处理第一帧"
  | .runs => "--repeat <REPEAT>               重复次数 [默认: 1000]"

def helpLines (program : Program) : List String :=
  ("用法: " ++ program.name ++ " [选项] --input <SOURCE>") ::
    program.parameters.map fun p ↦ "  " ++ helpLine p

def perform (program : Program) (arguments : List String) (s : Session) : Outcome :=
  match program.read {} arguments with
  | .error e => ⟨2, [], "error: " ++ e.message ++ "\n", s⟩
  | .ok .help => ⟨0, program.helpLines, "", s⟩
  | .ok .version => ⟨0, [program.versionText], "", s⟩
  | .ok (.run plan) =>
    let (r, s) := program.run plan s
    let output := (s.log.toList.filter (·.level.isShown)).map Line.onTerminal
    match r with
    | .ok () => ⟨0, output, "", s⟩
    | .error e => ⟨e.exitCode, output, e.report, s⟩

end Program

end FaceDecode
