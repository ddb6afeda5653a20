import FaceDecode.Proofs.Tensor.Recognition
import FaceDecode.Proofs.Tensor.Values

namespace FaceDecode

abbrev Listed (values : Array Float32) : Prop := values.size ≤ Tensor.maxLength

theorem Tensor.length_le_of_zeros? {kind : TensorKind} {cells : Nat} {t : Tensor kind cells}
    (h : zeros? = some t) : kind.length cells ≤ maxLength := by
  unfold zeros? at h
  split at h
  case isTrue held => exact held
  case isFalse => cases h

namespace ScaleTensors

/-- The tensors of a scale as they can be made. -/
inductive Built : ScaleTensors → Prop
  | zeros {cells : Nat} {s : ScaleTensors} : zeros? cells = some s → Built s
  | ofArrays {scale cells : Nat} {conf loc landms : Array Float32} {s : ScaleTensors} :
      Listed conf → Listed loc → Listed landms → ofArrays scale cells conf loc landms = .ok s →
      Built s
  | write {s s' : ScaleTensors} {cell anchor : Nat} {kind : TensorKind}
      {values : Vector Float32 kind.width} :
      Built s → s.write cell anchor kind values = .ok s' → Built s'

def Held (s : ScaleTensors) : Prop := ∀ kind : TensorKind, kind.length s.cells ≤ Tensor.maxLength

variable {s s' : ScaleTensors}

theorem held_of_zeros? {cells : Nat} (h : zeros? cells = some s) : s.Held := by
  simp only [zeros?, Option.bind_eq_bind, Option.bind_eq_some_iff] at h
  obtain ⟨conf, hconf, loc, hloc, landms, hlandms, same⟩ := h
  cases same
  intro kind
  cases kind with
  | confidence => exact Tensor.length_le_of_zeros? hconf
  | location => exact Tensor.length_le_of_zeros? hloc
  | landmarks => exact Tensor.length_le_of_zeros? hlandms

theorem cells_of_write {cell anchor : Nat} {kind : TensorKind} {values : Vector Float32 kind.width}
    (h : s.write cell anchor kind values = .ok s') : s'.cells = s.cells := by
  cases kind <;>
  · obtain ⟨_, -, same⟩ := bind_eq_ok.1 h
    cases same
    rfl

theorem Built.held (built : s.Built) : s.Held := by
  induction built with
  | zeros h => exact held_of_zeros? h
  | ofArrays hconf hloc hlandms h =>
    obtain ⟨-, rfl, rfl, rfl⟩ := ofArrays_eq_ok.1 h
    rw [Listed, Vector.size_toArray] at hconf hloc hlandms
    intro kind
    cases kind with
    | confidence => exact hconf
    | location => exact hloc
    | landmarks => exact hlandms
  | write _ h held =>
    unfold Held
    rw [cells_of_write h]
    exact held

theorem Held.size_eq (held : s.Held)
    (whole : TensorKind.confidence.channels * s.cells < UInt64.size) (kind : TensorKind) :
    (s.tensor kind).values.toArray.size = kind.channels * s.cells := by
  rw [Vector.size_toArray, TensorKind.length,
    Nat.mod_eq_of_lt (kind.counted_of_held (held .confidence) whole)]

end ScaleTensors

namespace Frame

/-- Frames as they can be made. -/
inductive Built : Frame → Prop
  | zeros {cells : Vector Nat scaleCount} {f : Frame} : zeros? cells = some f → Built f
  | ofScales {scales : Vector ScaleTensors scaleCount} :
      (∀ scale, (scales.get scale).Built) → Built ⟨scales⟩
  | recognize {cells : Vector Nat scaleCount} {tensors : List (Array Float32)} {f : Frame} :
      (∀ values ∈ tensors, Listed values) → recognize cells tensors = .ok f → Built f
  | write {f f' : Frame} {scale : Fin scaleCount} {cell anchor : Nat} {kind : TensorKind}
      {values : Vector Float32 kind.width} :
      Built f → f.write scale cell anchor kind values = .ok f' → Built f'

variable {f f' : Frame}

theorem get_cells (scale : Fin scaleCount) : f.cells.get scale = (f.scales.get scale).cells :=
  (cells_eq_iff.1 rfl scale).symm

theorem cells_zeros (cells : Vector Nat scaleCount) : (zeros cells).cells = cells :=
  cells_eq_iff.2 zeros_cells

theorem scales_zeros (cells : Vector Nat scaleCount) (scale : Fin scaleCount) :
    (zeros cells).scales.get scale = .zeros (cells.get scale) := Vector.getElem_map _ scale.2

theorem contents_zeros (cells : Vector Nat scaleCount) (slot : Slot) :
    (zeros cells).contents slot = .replicate (slot.length cells) 0 := by
  rw [contents, scales_zeros]
  cases slot with
  | mk scale kind => cases kind <;> rfl

theorem cells_of_write {scale : Fin scaleCount} {cell anchor : Nat} {kind : TensorKind}
    {values : Vector Float32 kind.width} (h : f.write scale cell anchor kind values = .ok f') :
    f'.cells = f.cells := by
  obtain ⟨s, written, same⟩ := bind_eq_ok.1 h
  cases same
  refine cells_eq_iff.2 fun other ↦ ?_
  have replaced : (f.scales.set scale s).get other =
      if (scale : Nat) = other then s else f.scales.get other :=
    Vector.getElem_set scale.2 other.2
  rw [replaced, get_cells]
  split
  case isTrue same =>
    obtain rfl := Fin.ext same
    exact ScaleTensors.cells_of_write written
  case isFalse => rfl

theorem Built.held (built : f.Built) : f.Held := by
  induction built with
  | zeros h =>
    obtain ⟨scales, made, rfl⟩ := Option.map_eq_some_iff.1 h
    intro scale
    obtain ⟨cells, -, zeros⟩ := exists_of_mem_vector_mapM made (get_mem_scales ⟨scales⟩ scale)
    exact ScaleTensors.held_of_zeros? zeros
  | ofScales h => exact fun scale ↦ (h scale).held
  | @recognize cells tensors f listed h =>
    intro scale kind
    have there : f.contents ⟨scale, kind⟩ ∈ tensors := by
      have alone := filter_size h ⟨scale, kind⟩
      exact (List.mem_filter.1 (alone ▸ List.mem_singleton_self _)).1
    have few := listed _ there
    rwa [Listed, size_contents rfl, Slot.length, get_cells] at few
  | write _ h held =>
    intro scale kind
    rw [← get_cells, cells_of_write h, get_cells]
    exact held scale kind

end Frame

end FaceDecode
