import FaceDecode.Task.Stage

namespace FaceDecode

inductive Task where
  | once
  | repeated (runs : Nat)
  | continuous (limit : Option Nat)
deriving DecidableEq, Repr

inductive TaskError (μ ρ : Type) where
  | noFrame
  | tooManyRuns (runs : Nat)
  | infer (failure : μ)
  | render (failure : ρ)
deriving DecidableEq, Repr

def TaskError.message {μ ρ : Type} (infer : μ → String) (render : ρ → String) :
    TaskError μ ρ → String
  | .noFrame => "没有输入帧"
  | .tooManyRuns runs => s!"重复次数过多: {runs}"
  | .infer failure => infer failure
  | .render failure => render failure

namespace Stage

variable {σ φ δ μ ρ : Type}

def inform (s : Stage σ φ δ μ ρ) (text : String) : Attempt σ (TaskError μ ρ) Unit :=
  ExceptT.lift (s.note ⟨.info, text⟩)

def process (s : Stage σ φ δ μ ρ) (frame : φ) : Attempt σ (TaskError μ ρ) Unit := do
  let result ← (s.infer frame).mapError .infer
  (s.render frame result).mapError .render

def processTimes (s : Stage σ φ δ μ ρ) (frame : φ) : Nat → Attempt σ (TaskError μ ρ) Unit
  | 0 => return ()
  | n + 1 => do
    s.process frame
    s.processTimes frame n

def conclude (s : Stage σ φ δ μ ρ) : Attempt σ (TaskError μ ρ) Unit :=
  s.finish.mapError .render

def first (feed : Feed σ φ) : Attempt σ (TaskError μ ρ) φ := do
  match ← ExceptT.lift feed.next with
  | (some frame, _) => return frame
  | (none, _) => throw .noFrame

/-- Processes frame after frame; `done` counts those before. The limit is looked at after each
frame. -/
def processAll (s : Stage σ φ δ μ ρ) (limit : Option Nat) :
    Nat → Feed σ φ → Attempt σ (TaskError μ ρ) Nat
  | done, [] => return done
  | done, read :: rest => do
    match ← ExceptT.lift read with
    | none => s.processAll limit done rest
    | some frame =>
      s.process frame
      if limit.any (· ≤ done + 1) then
        s.inform s!"达到指定帧数 {done + 1}, 退出任务循环"
        return done + 1
      else s.processAll limit (done + 1) rest

end Stage

namespace Task

variable {σ φ δ μ ρ : Type}

def defaultRuns : Nat := 1000

/-- The times of at most this many runs can be kept: their bytes, sixteen each, are counted in a
signed word. -/
def maxRuns : Nat := 0x7ffffffffffffff

def run (task : Task) (s : Stage σ φ δ μ ρ) (feed : Feed σ φ) : Attempt σ (TaskError μ ρ) Unit := do
  s.inform "开始任务..."
  match task with
  | .once =>
    let frame ← Stage.first feed
    s.inform "输入帧获取成功，开始推理..."
    s.process frame
    s.conclude
  | .repeated runs =>
    let frame ← Stage.first feed
    let runs := max runs 1
    s.inform s!"输入帧获取成功，重复推理 {runs} 次..."
    if maxRuns < runs then throw (.tooManyRuns runs)
    s.processTimes frame runs
    s.conclude
  | .continuous limit =>
    let done ← s.processAll limit 0 feed
    s.conclude
    s.inform s!"任务完成，共处理 {done} 帧，退出"

end Task

end FaceDecode
