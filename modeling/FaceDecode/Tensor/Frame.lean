import FaceDecode.Tensor.Basic

namespace FaceDecode

inductive FrameError where
  | wrongLength (scale : Nat) (kind : TensorKind) (expected actual : Nat)
  | unrecognized (length : Nat)
  | duplicate (scale : Nat) (kind : TensorKind)
  | missing (scale : Nat) (kind : TensorKind)
deriving DecidableEq, Repr

def FrameError.message : FrameError → String
  | .wrongLength scale kind expected actual =>
    s!"张量长度不匹配: 尺度 {scale} 的 {kind.name} 期望 {expected}, 实际 {actual}"
  | .unrecognized length => s!"无法识别的张量, 元素数量 {length}"
  | .duplicate scale kind => s!"重复的张量: 尺度 {scale} 的 {kind.name}"
  | .missing scale kind => s!"缺少张量: 尺度 {scale} 的 {kind.name}"

structure ScaleTensors where
  cells : Nat
  conf : Tensor .confidence cells
  loc : Tensor .location cells
  landms : Tensor .landmarks cells

namespace ScaleTensors

def zeros? (cells : Nat) : Option ScaleTensors := do
  return ⟨cells, ← Tensor.zeros?, ← Tensor.zeros?, ← Tensor.zeros?⟩

def tensor (s : ScaleTensors) : (kind : TensorKind) → Tensor kind s.cells
  | .confidence => s.conf
  | .location => s.loc
  | .landmarks => s.landms

/-- Reads a list of values as the tensor of a scale, or reports how its length is wrong. -/
def fit (scale : Nat) (kind : TensorKind) (cells : Nat) (values : Array Float32) :
    Except FrameError (Tensor kind cells) :=
  match Tensor.ofArray? values with
  | some t => .ok t
  | none => .error (.wrongLength scale kind (kind.length cells) values.size)

/-- The tensors of scale number `scale` from their values; the first wrong length is reported. -/
def ofArrays (scale cells : Nat) (conf loc landms : Array Float32) :
    Except FrameError ScaleTensors := do
  let conf ← fit scale .confidence cells conf
  let loc ← fit scale .location cells loc
  let landms ← fit scale .landmarks cells landms
  return ⟨cells, conf, loc, landms⟩

def write (s : ScaleTensors) (cell anchor : Nat) :
    (kind : TensorKind) → Vector Float32 kind.width → Except OutOfRange ScaleTensors
  | .confidence, values => do return { s with conf := ← s.conf.write cell anchor values }
  | .location, values => do return { s with loc := ← s.loc.write cell anchor values }
  | .landmarks, values => do return { s with landms := ← s.landms.write cell anchor values }

end ScaleTensors

structure Frame where
  scales : Vector ScaleTensors scaleCount

namespace Frame

def zeros? (cells : Vector Nat scaleCount) : Option Frame :=
  (cells.mapM ScaleTensors.zeros?).map (⟨·⟩)

def cells (f : Frame) : Vector Nat scaleCount := f.scales.map (·.cells)

def write (f : Frame) (scale : Fin scaleCount) (cell anchor : Nat) (kind : TensorKind)
    (values : Vector Float32 kind.width) : Except OutOfRange Frame := do
  return ⟨f.scales.set scale (← (f.scales.get scale).write cell anchor kind values)⟩

end Frame

end FaceDecode
