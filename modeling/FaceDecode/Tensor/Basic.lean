namespace FaceDecode

abbrev scaleCount : Nat := 3

abbrev anchorsPerCell : Nat := 2

inductive TensorKind where
  | confidence
  | location
  | landmarks
deriving DecidableEq, Repr

namespace TensorKind

def all : List TensorKind := [confidence, location, landmarks]

/-- Values per anchor: background and face, a shift and a stretch on each axis, five points. -/
@[reducible] def width : TensorKind → Nat
  | confidence => 2
  | location => 4
  | landmarks => 10

@[reducible] def channels (kind : TensorKind) : Nat := anchorsPerCell * kind.width

def length (kind : TensorKind) (cells : Nat) : Nat := kind.channels * cells % UInt64.size

def name : TensorKind → String
  | confidence => "conf"
  | location => "loc"
  | landmarks => "landms"

end TensorKind

structure OutOfRange where
  index : Nat
  size : Nat
deriving DecidableEq, Repr

structure Tensor (kind : TensorKind) (cells : Nat) where
  values : Vector Float32 (kind.length cells)

namespace Tensor

variable {kind : TensorKind} {cells : Nat}

def index (kind : TensorKind) (cells cell anchor k : Nat) : Nat :=
  ((anchor * kind.width + k) * cells + cell) % UInt64.size

/-- A list holds at most this many values: their bytes are counted in a signed word. -/
def maxLength : Nat := 0x1fffffffffffffff

def zeros? : Option (Tensor kind cells) :=
  if kind.length cells ≤ maxLength then some ⟨.replicate _ 0⟩ else none

def ofArray? (values : Array Float32) : Option (Tensor kind cells) :=
  if h : values.size = kind.length cells then some ⟨⟨values, h⟩⟩ else none

def get (t : Tensor kind cells) (i : Nat) : Except OutOfRange Float32 :=
  if h : i < kind.length cells then .ok (t.values.get ⟨i, h⟩) else .error ⟨i, kind.length cells⟩

def set (t : Tensor kind cells) (i : Nat) (value : Float32) : Except OutOfRange (Tensor kind cells) :=
  if h : i < kind.length cells then .ok ⟨t.values.set i value h⟩
  else .error ⟨i, kind.length cells⟩

def read (t : Tensor kind cells) (cell anchor : Nat) :
    Except OutOfRange (Vector Float32 kind.width) :=
  Vector.ofFnM fun k ↦ t.get (index kind cells cell anchor k)

def write (t : Tensor kind cells) (cell anchor : Nat) (values : Vector Float32 kind.width) :
    Except OutOfRange (Tensor kind cells) :=
  Fin.foldlM kind.width (fun t k ↦ t.set (index kind cells cell anchor k) (values.get k)) t

end Tensor

end FaceDecode
