import FaceDecode.Proofs.Steps
import FaceDecode.Proofs.Tensor.Places

namespace FaceDecode

theorem TensorKind.counted_of_held (kind : TensorKind) {cells : Nat}
    (held : confidence.length cells ≤ Tensor.maxLength)
    (whole : confidence.channels * cells < UInt64.size) : kind.channels * cells < UInt64.size := by
  rw [length, Nat.mod_eq_of_lt whole] at held
  -- Four values for each cell fit into an eighth of all words, so five times as many still fit.
  have most : kind.channels ≤ 20 := by cases kind <;> decide
  have := Nat.mul_le_mul_right cells most
  simp only [channels, width, anchorsPerCell, Tensor.maxLength, UInt64.size] at *
  omega

namespace Tensor

variable {kind : TensorKind} {cells : Nat} (t : Tensor kind cells)

/-- Value `k` of an anchor, if there is one at its place. -/
def value? (cell anchor k : Nat) : Option Float32 :=
  t.values[(anchor * kind.width + k) * cells + cell]?

/-- The values of an anchor, and zero where there is none. -/
def valuesOf (cell anchor : Nat) : Vector Float32 kind.width :=
  .ofFn fun k ↦ (t.value? cell anchor k).getD 0

variable {cell anchor : Nat}

theorem place_lt (hc : cell < cells) (ha : anchor < anchorsPerCell) (k : Fin kind.width) :
    (anchor * kind.width + k) * cells + cell < kind.channels * cells := by
  have row : (anchor + 1) * kind.width ≤ kind.channels := Nat.mul_le_mul_right kind.width ha
  have channel : anchor * kind.width + k + 1 ≤ kind.channels := by
    rw [Nat.succ_mul] at row
    exact Nat.le_trans (Nat.add_lt_add_left k.2 _) row
  calc (anchor * kind.width + k) * cells + cell
      < (anchor * kind.width + k) * cells + cells := Nat.add_lt_add_left hc _
    _ = (anchor * kind.width + k + 1) * cells := (Nat.succ_mul _ _).symm
    _ ≤ kind.channels * cells := Nat.mul_le_mul_right cells channel

theorem get_eq_ok {i : Nat} {x : Float32} : t.get i = .ok x ↔ t.values[i]? = some x := by
  unfold get
  split
  case isTrue h => rw [Vector.getElem?_eq_getElem h, Except.ok.injEq, Option.some.injEq]; rfl
  case isFalse h => simp [Vector.getElem?_eq_none (Nat.le_of_not_lt h)]

variable (fits : kind.channels * cells < UInt64.size)
include fits

theorem value?_eq (hc : cell < cells) (ha : anchor < anchorsPerCell) (k : Fin kind.width) :
    t.value? cell anchor k = some ((t.valuesOf cell anchor).get k) := by
  have h : (anchor * kind.width + k) * cells + cell < kind.length cells := by
    rw [TensorKind.length, Nat.mod_eq_of_lt fits]
    exact place_lt hc ha k
  have there : t.value? cell anchor k = some t.values[(anchor * kind.width + k) * cells + cell] :=
    Vector.getElem?_eq_getElem h
  have same : (t.valuesOf cell anchor).get k = (t.value? cell anchor k).getD 0 :=
    Vector.getElem_ofFn k.2
  rw [same, there, Option.getD_some]

theorem read_eq (hc : cell < cells) (ha : anchor < anchorsPerCell) :
    t.read cell anchor = .ok (t.valuesOf cell anchor) := by
  have each (k : Fin kind.width) :
      t.get (index kind cells cell anchor k) = .ok ((t.valuesOf cell anchor).get k) := by
    rw [index, Nat.mod_eq_of_lt (Nat.lt_trans (place_lt hc ha k) fits)]
    exact t.get_eq_ok.2 (t.value?_eq fits hc ha k)
  simp only [read, each]
  exact Vector.ofFnM_pure.trans (congrArg Except.ok Vector.ofFn_getElem)

end Tensor

namespace Frame

variable (f : Frame) (p : Place)

/-- Whether the lengths of all tensors are what they are without wrapping. -/
def Fits : Prop :=
  ∀ (scale : Fin scaleCount) (kind : TensorKind),
    kind.channels * (f.scales.get scale).cells < UInt64.size

def value? (kind : TensorKind) (k : Nat) : Option Float32 :=
  ((f.scales.get p.scale).tensor kind).value? p.cell p.anchor k

def valuesOf (kind : TensorKind) : Vector Float32 kind.width :=
  ((f.scales.get p.scale).tensor kind).valuesOf p.cell p.anchor

variable {f p}

theorem value?_eq (fits : f.Fits) (h : f.Has p) (kind : TensorKind) (k : Fin kind.width) :
    f.value? p kind k = some ((f.valuesOf p kind).get k) :=
  Tensor.value?_eq _ (fits p.scale kind) h p.anchor.2 k

variable (f) in
theorem get_mem_scales (scale : Fin scaleCount) : f.scales.get scale ∈ f.scales.toList := by
  simp [Vector.get]

variable (f) in
/-- Whether the values of each tensor are few enough to be held. -/
def Held : Prop :=
  ∀ (scale : Fin scaleCount) (kind : TensorKind),
    kind.length (f.scales.get scale).cells ≤ Tensor.maxLength

variable (f) in
/-- Whether the confidences of each scale are as many as its cells ask for. -/
def Whole : Prop :=
  ∀ scale, TensorKind.confidence.channels * (f.scales.get scale).cells < UInt64.size

/-- Cells whose confidences can be held are so few that their other values are counted as well. -/
theorem Held.fits (held : f.Held) (whole : f.Whole) : f.Fits :=
  fun scale kind ↦ kind.counted_of_held (held scale .confidence) (whole scale)

end Frame

def ScaleTensors.zeros (cells : Nat) : ScaleTensors :=
  ⟨cells, ⟨.replicate _ 0⟩, ⟨.replicate _ 0⟩, ⟨.replicate _ 0⟩⟩

theorem ScaleTensors.zeros?_eq {cells : Nat}
    (h : ∀ kind : TensorKind, kind.length cells ≤ Tensor.maxLength) :
    zeros? cells = some (zeros cells) := by
  have held (kind : TensorKind) :
      (Tensor.zeros? : Option (Tensor kind cells)) = some ⟨.replicate _ 0⟩ := if_pos (h kind)
  rw [zeros?, held, held, held]
  rfl

namespace Frame

def zeros (cells : Vector Nat scaleCount) : Frame := ⟨cells.map ScaleTensors.zeros⟩

variable {cells : Vector Nat scaleCount}

@[simp]
theorem zeros_cells (scale : Fin scaleCount) :
    ((zeros cells).scales.get scale).cells = cells.get scale := by
  simp only [zeros, Vector.get, Vector.toArray_map, Array.getElem_map, ScaleTensors.zeros]
  rfl

variable (h : ∀ (scale : Fin scaleCount) (kind : TensorKind),
  kind.length (cells.get scale) ≤ Tensor.maxLength)
include h

theorem zeros?_eq : zeros? cells = some (zeros cells) := by
  have scales : cells.mapM ScaleTensors.zeros? = some (cells.map ScaleTensors.zeros) := by
    refine vector_mapM_eq_pure fun n hn ↦ ?_
    obtain ⟨i, hi, rfl⟩ := List.getElem_of_mem hn
    exact ScaleTensors.zeros?_eq (h ⟨i, by simpa using hi⟩)
  rw [zeros?, scales]
  rfl

theorem zeros_held : (zeros cells).Held := by
  intro scale kind
  rw [zeros_cells]
  exact h scale kind

end Frame

end FaceDecode
