import FaceDecode.Detector.Settings
import FaceDecode.Locator.Read
import FaceDecode.Sink.LogSink
import FaceDecode.Task.Run

namespace FaceDecode

inductive Program where
  | detection
  | benchmark
deriving DecidableEq, Repr

inductive Parameter where
  | model
  | input
  | output
  | frameLimit
  | once
  | runs
deriving DecidableEq, Repr

namespace Parameter

def name : Parameter → String
  | model => "model"
  | input => "input"
  | output => "output"
  | frameLimit => "frame-number"
  | once => "once"
  | runs => "repeat"

def takesValue : Parameter → Bool
  | once => false
  | _ => true

end Parameter

namespace Program

def parameters : Program → List Parameter
  | detection => [.model, .input, .output, .frameLimit, .once]
  | benchmark => [.model, .input, .output, .runs]

def parameter? (program : Program) (name : String) : Option Parameter :=
  program.parameters.find? (·.name == name)

end Program

inductive Argument where
  | separator
  | long (name : String) (value : Option String)
  | short (letters : List Char)
  | plain (text : String)
deriving DecidableEq, Repr

/-- The argument that a text writes, told from how it starts. A lone dash is plain. -/
def Argument.ofText (text : String) : Argument :=
  match text.toList with
  | ['-'] => .plain text
  | ['-', '-'] => .separator
  | '-' :: '-' :: cs =>
    let (name, value) := Locator.cut (· == '=') cs
    .long (.ofList name) (value.map String.ofList)
  | '-' :: letters => .short letters
  | _ => .plain text

inductive UsageError where
  | unknown (text : String)
  | repeated (name : String)
  | noValue (name : String)
  | badValue (name value : String)
  | needlessValue (name : String)
  | noInput
deriving DecidableEq, Repr

def UsageError.message : UsageError → String
  | .unknown text => s!"未知的参数: {text}"
  | .repeated name => s!"参数 --{name} 重复"
  | .noValue name => s!"参数 --{name} 缺少值"
  | .badValue name value => s!"参数 --{name} 的值无效: {value}"
  | .needlessValue name => s!"参数 --{name} 不接受值"
  | .noInput => "缺少参数 --input"

structure Options where
  model : Option Locator := none
  input : Option Locator := none
  output : Option Locator := none
  frameLimit : Option Nat := none
  once : Bool := false
  runs : Option Nat := none
deriving DecidableEq, Repr

namespace Options

def isGiven (o : Options) : Parameter → Bool
  | .model => o.model.isSome
  | .input => o.input.isSome
  | .output => o.output.isSome
  | .frameLimit => o.frameLimit.isSome
  | .once => o.once
  | .runs => o.runs.isSome

def set? (o : Options) (p : Parameter) (value : String) : Option Options :=
  match p with
  | .model => (Locator.read value).toOption.map fun l ↦ { o with model := some l }
  | .input => (Locator.read value).toOption.map fun l ↦ { o with input := some l }
  | .output => (Locator.read value).toOption.map fun l ↦ { o with output := some l }
  | .frameLimit => (Read.count? value).map fun n ↦ { o with frameLimit := some n }
  | .once => some { o with once := true }
  | .runs => (Read.count? value).map fun n ↦ { o with runs := some n }

def give (o : Options) (p : Parameter) (value : String) : Except UsageError Options :=
  if o.isGiven p then .error (.repeated p.name)
  else match o.set? p value with
    | some o => .ok o
    | none => .error (.badValue p.name value)

end Options

def Locator.ofScheme (scheme : String) : Locator where
  scheme := scheme
  authority := some ""
  path := "/"
  query := none
  fragment := none

structure RunPlan where
  model : Locator
  input : Locator
  output : Locator
  task : Task
deriving Repr

def RunPlan.outputPaths (plan : RunPlan) : List String :=
  plan.output.decodedPath :: (plan.output.pairs.filter (·.1 == "background")).map (·.2)

inductive Request where
  | help
  | version
  | run (plan : RunPlan)
deriving Repr

namespace Program

def defaultModel : Locator := .ofScheme detectorScheme

def defaultOutput : Locator := .ofScheme logScheme

def task (o : Options) : Program → Task
  | detection => if o.once then .once else .continuous o.frameLimit
  | benchmark => .repeated (o.runs.getD Task.defaultRuns)

def plan (program : Program) (o : Options) : Except UsageError RunPlan :=
  match o.input with
  | none => .error .noInput
  | some input => .ok {
      input
      model := o.model.getD defaultModel
      output := o.output.getD defaultOutput
      task := program.task o }

def request? : String → Option Request
  | "help" => some .help
  | "version" => some .version
  | _ => none

def read (program : Program) (o : Options) : List String → Except UsageError Request
  | [] => (program.plan o).map .run
  | text :: rest =>
    match Argument.ofText text with
    | .separator =>
      match rest with
      | [] => (program.plan o).map .run
      | next :: _ => .error (.unknown next)
    | .plain _ => .error (.unknown text)
    | .short ('h' :: _) => .ok .help
    | .short ('V' :: _) => .ok .version
    | .short _ => .error (.unknown text)
    | .long name value =>
      match program.parameter? name, value with
      | some p, some value =>
        if p.takesValue then do program.read (← o.give p value) rest
        else .error (.needlessValue name)
      | some p, none =>
        if p.takesValue then
          match rest with
          | [] => .error (.noValue name)
          | next :: rest =>
            match Argument.ofText next with
            | .plain value => do program.read (← o.give p value) rest
            | _ => .error (.noValue name)
        else do program.read (← o.give p "") rest
      | none, value =>
        match request? name, value with
        | some request, none => .ok request
        | some _, some _ => .error (.needlessValue name)
        | none, _ => .error (.unknown text)

end Program

end FaceDecode
