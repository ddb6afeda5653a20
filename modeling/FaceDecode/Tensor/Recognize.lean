import FaceDecode.Tensor.Frame

namespace FaceDecode

structure Slot where
  scale : Fin scaleCount
  kind : TensorKind
deriving DecidableEq, Repr

namespace Slot

def all : List Slot :=
  (List.finRange scaleCount).flatMap fun scale ↦ TensorKind.all.map (⟨scale, ·⟩)

def length (cells : Vector Nat scaleCount) (slot : Slot) : Nat :=
  slot.kind.length (cells.get slot.scale)

/-- The first slot for a tensor of the given length. -/
def ofLength? (cells : Vector Nat scaleCount) (length : Nat) : Option Slot :=
  all.find? fun slot ↦ slot.length cells == length

end Slot

namespace Frame

abbrev Filling := List (Slot × Array Float32)

def place (cells : Vector Nat scaleCount) (filling : Filling) (values : Array Float32) :
    Except FrameError Filling :=
  match Slot.ofLength? cells values.size with
  | none => .error (.unrecognized values.size)
  | some slot =>
    if (filling.lookup slot).isSome then .error (.duplicate slot.scale slot.kind)
    else .ok ((slot, values) :: filling)

def Filling.take (filling : Filling) (slot : Slot) : Except FrameError (Array Float32) :=
  match filling.lookup slot with
  | some values => .ok values
  | none => .error (.missing slot.scale slot.kind)

def Filling.scale (filling : Filling) (cells : Vector Nat scaleCount) (scale : Fin scaleCount) :
    Except FrameError ScaleTensors := do
  let conf ← filling.take ⟨scale, .confidence⟩
  let loc ← filling.take ⟨scale, .location⟩
  let landms ← filling.take ⟨scale, .landmarks⟩
  ScaleTensors.ofArrays scale (cells.get scale) conf loc landms

/-- The frame with the given cells whose nine tensors are listed in any order. -/
def recognize (cells : Vector Nat scaleCount) (tensors : List (Array Float32)) :
    Except FrameError Frame := do
  let filling ← tensors.foldlM (place cells) []
  let first ← filling.scale cells 0
  let second ← filling.scale cells 1
  let third ← filling.scale cells 2
  return ⟨#v[first, second, third]⟩

end Frame

end FaceDecode
