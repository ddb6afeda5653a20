import FaceDecode.Detection.Candidate
import FaceDecode.Proofs.Tensor.Values

namespace FaceDecode

namespace Row

theorem cut_spec (row : Row) (count : Nat) (h : count ≤ row.size) :
    ∃ front back, row.cut count = .ok (front, back) ∧ back.size + count = row.size ∧
      (∀ i < count, front[i]? = row[i]?) ∧ ∀ i, back[i]? = row[count + i]? := by
  refine ⟨_, _, if_pos h, ?_, ?_, ?_⟩
  · rw [Array.size_extract]
    omega
  · intro i hi
    rw [Array.getElem?_extract, if_pos (by omega), Nat.zero_add]
  · intro i
    rw [Array.getElem?_extract]
    split
    case isTrue hi => rfl
    case isFalse hi => exact (Array.getElem?_eq_none (by omega)).symm

theorem get_eq_ok {row : Row} {i : Nat} {x : Float32} (h : row[i]? = some x) :
    row.get i = .ok x := by
  obtain ⟨hi, rfl⟩ := Array.getElem?_eq_some_iff.1 h
  exact dif_pos hi

end Row

namespace ScaleTensors

def probability (s : ScaleTensors) (cell anchor : Nat) : Float32 :=
  faceProbability ((s.conf.valuesOf cell anchor).get ⟨0, Nat.zero_lt_two⟩)
    ((s.conf.valuesOf cell anchor).get ⟨1, Nat.one_lt_two⟩)

variable {s : ScaleTensors} (fits : TensorKind.confidence.channels * s.cells < UInt64.size)
include fits

theorem rows_spec :
    ∃ rows, s.rows = .ok rows ∧ ∀ cell < s.cells, ∀ anchor : Fin anchorsPerCell,
      (rows.background.get anchor)[cell]? = s.conf.value? cell anchor 0 ∧
      (rows.face.get anchor)[cell]? = s.conf.value? cell anchor 1 := by
  have size : s.conf.values.toArray.size = 4 * s.cells := by
    rw [s.conf.values.size_toArray, TensorKind.length, Nat.mod_eq_of_lt fits]
    rfl
  -- The rows lie one behind the other, so three cuts leave the last one.
  obtain ⟨background₀, rest₀, cut₀, size₀, front₀, back₀⟩ :=
    Row.cut_spec s.conf.values.toArray s.cells (by omega)
  obtain ⟨face₀, rest₁, cut₁, size₁, front₁, back₁⟩ := Row.cut_spec rest₀ s.cells (by omega)
  obtain ⟨background₁, face₁, cut₂, size₂, front₂, back₂⟩ := Row.cut_spec rest₁ s.cells (by omega)
  refine ⟨⟨#v[background₀, background₁], #v[face₀, face₁]⟩, ?_, ?_⟩
  · rw [rows, cut₀]
    show (Row.cut rest₀ s.cells >>= _) = _
    rw [cut₁]
    show (Row.cut rest₁ s.cells >>= _) = _
    rw [cut₂]
    rfl
  · intro cell hc anchor
    have value (i : Nat) : s.conf.values.toArray[i]? = s.conf.values[i]? := Vector.getElem?_toArray
    have row₁ := (front₁ cell hc).trans (back₀ cell)
    have row₂ := (front₂ cell hc).trans ((back₁ cell).trans (back₀ _))
    have row₃ := (back₂ cell).trans ((back₁ _).trans (back₀ _))
    rw [Tensor.value?, Tensor.value?, ← value, ← value]
    obtain ⟨anchor, ha⟩ := anchor
    obtain rfl | rfl : anchor = 0 ∨ anchor = 1 :=
      Nat.le_one_iff_eq_zero_or_eq_one.1 (Nat.le_of_lt_succ ha)
    · refine ⟨(front₀ cell hc).trans ?_, row₁.trans ?_⟩ <;> congr 1 <;>
        simp only [TensorKind.width] <;> omega
    · refine ⟨row₂.trans ?_, row₃.trans ?_⟩ <;> congr 1 <;> simp only [TensorKind.width] <;> omega

theorem rows_probability :
    ∃ rows, s.rows = .ok rows ∧ ∀ cell < s.cells, ∀ anchor,
      rows.probability cell anchor = .ok (s.probability cell anchor) := by
  obtain ⟨rows, cut, spec⟩ := rows_spec fits
  refine ⟨rows, cut, fun cell hc anchor ↦ ?_⟩
  obtain ⟨background, face⟩ := spec cell hc anchor
  rw [s.conf.value?_eq fits hc anchor.2 ⟨0, Nat.zero_lt_two⟩] at background
  rw [s.conf.value?_eq fits hc anchor.2 ⟨1, Nat.one_lt_two⟩] at face
  rw [Rows.probability, Row.get_eq_ok background, Row.get_eq_ok face]
  rfl

omit fits

theorem rows_eq_error (held : TensorKind.confidence.length s.cells ≤ Tensor.maxLength)
    (wraps : UInt64.size ≤ TensorKind.confidence.channels * s.cells) :
    ∃ e, s.rows = .error e := by
  have short : ¬ s.cells ≤ s.conf.values.toArray.size := by
    rw [Vector.size_toArray]
    simp only [TensorKind.channels, TensorKind.width, anchorsPerCell, Tensor.maxLength,
      UInt64.size] at *
    omega
  refine ⟨⟨s.cells, s.conf.values.toArray.size⟩, ?_⟩
  rw [rows, Row.cut, if_neg short]
  rfl

end ScaleTensors

variable (f : Frame) (threshold : Float32)

namespace Frame

def probability (p : Place) : Float32 := (f.scales.get p.scale).probability p.cell p.anchor

def passing : List Place := f.places.filter fun p ↦ threshold ≤ f.probability p

theorem mem_passing (p : Place) :
    p ∈ f.passing threshold ↔ f.Has p ∧ threshold ≤ f.probability p := by
  rw [passing, List.mem_filter, f.mem_places, decide_eq_true_iff]

theorem passing_pairwise : (f.passing threshold).Pairwise fun p q ↦ f.number p < f.number q :=
  f.places_pairwise.filter _

end Frame

def Candidate.found (p : Frame.Place) : Candidate where
  index := f.number p
  probability := f.probability p

namespace Scan

def place (scan : Scan) (p : Frame.Place) : Scan := scan.step threshold (f.probability p)

variable {f}

theorem found_foldl_place {ps : List Frame.Place} (scan : Scan)
    (left : f.places.drop scan.next = ps) :
    (ps.foldl (place f threshold) scan).found =
      scan.found ++
        ((ps.filter fun p ↦ threshold ≤ f.probability p).map (Candidate.found f)).toArray := by
  induction ps generalizing scan with
  | nil => simp
  | cons p ps ih =>
    obtain ⟨-, number, left⟩ := f.number_of_drop left
    rw [List.foldl_cons, ih (place f threshold scan p) left]
    by_cases h : threshold ≤ f.probability p
    · have found : (place f threshold scan p).found = scan.found.push (.found f p) := by
        rw [place, step, if_pos h, Candidate.found, number]
      rw [found, List.filter_cons_of_pos (by simpa using h)]
      simp
    · have found : (place f threshold scan p).found = scan.found := by
        rw [place, step, if_neg h]
      rw [found, List.filter_cons_of_neg (by simpa using h)]

variable (fits : f.Fits)
include fits

theorem scale_eq (scale : Fin scaleCount) (scan : Scan) :
    Scan.scale threshold scan (f.scales.get scale) =
      .ok ((Frame.placesOf scale (f.scales.get scale).cells).foldl (place f threshold) scan) := by
  obtain ⟨rows, cut, probabilities⟩ := ScaleTensors.rows_probability (fits scale .confidence)
  have cell : ∀ c ∈ List.range (f.scales.get scale).cells, ∀ scan,
      Scan.cell threshold rows scan c =
        .ok ((Frame.placesIn scale c).foldl (place f threshold) scan) := by
    intro c hc scan
    rw [Frame.placesIn, List.foldl_map]
    refine foldlM_eq_pure (fun anchor _ scan ↦ ?_) scan
    rw [probabilities c (List.mem_range.1 hc)]
    rfl
  rw [Scan.scale, cut, Frame.placesOf, List.foldl_flatMap]
  exact foldlM_eq_pure cell scan

theorem scales_eq (scan : Scan) :
    f.scales.toList.foldlM (Scan.scale threshold) scan =
      .ok (f.places.foldl (place f threshold) scan) := by
  rw [vector_toList_eq f.scales, List.foldlM_map, Frame.places, List.foldl_flatMap]
  exact foldlM_eq_pure (fun scale _ ↦ scale_eq threshold fits scale) scan

end Scan

namespace Candidate

variable {f}

theorem extract_eq (fits : f.Fits) (buffer : Array Candidate) :
    extract buffer f threshold = .ok ((f.passing threshold).map (found f)).toArray := by
  have emptied : buffer.shrink 0 = #[] := by simp
  rw [extract, Scan.scales_eq threshold fits]
  refine congrArg Except.ok ?_
  refine (Scan.found_foldl_place threshold ⟨0, _⟩ rfl).trans ?_
  rw [emptied, Array.empty_append]
  rfl

theorem extract_eq_error (held : f.Held) (wraps : ¬ f.Whole) (buffer : Array Candidate) :
    ∃ e, extract buffer f threshold = .error e := by
  unfold Frame.Whole at wraps
  push Not at wraps
  obtain ⟨scale, wraps⟩ := wraps
  have stuck (scan : Scan) : ∃ e, Scan.scale threshold scan (f.scales.get scale) = .error e := by
    obtain ⟨e, failed⟩ := ScaleTensors.rows_eq_error (held scale .confidence) wraps
    refine ⟨e, ?_⟩
    rw [Scan.scale, failed]
    rfl
  obtain ⟨e, failed⟩ := foldlM_eq_error (f.get_mem_scales scale) stuck ⟨0, buffer.shrink 0⟩
  refine ⟨e, ?_⟩
  rw [extract, failed]
  rfl

end Candidate

end FaceDecode
