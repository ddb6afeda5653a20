import FaceDecode.Detection.Pipeline
import FaceDecode.Proofs.Detection.Anchors
import FaceDecode.Proofs.Detection.Candidates
import FaceDecode.Proofs.Detection.Survivors
import FaceDecode.Proofs.Tensor.Writing
import Mathlib.Algebra.Order.BigOperators.Group.List
import Mathlib.Algebra.Order.Group.Nat

namespace FaceDecode

namespace AnchorTable

def anchor (table : AnchorTable) (i : Nat) : CenterBox := table.anchors.getD i ⟨0, 0, 0, 0⟩

variable {table : AnchorTable} {f : Frame} (same : f.cells = table.cells)
include same

theorem anchors_size : table.anchors.size = f.anchorCount := by
  rw [table.size_eq, Frame.anchorCount, same]

theorem anchor_eq {p : Frame.Place} (h : f.Has p) :
    table.anchors[f.number p]? = some (table.anchor (f.number p)) := by
  have inside : f.number p < table.anchors.size := by
    rw [anchors_size same]
    exact h.number_lt
  simp [anchor, inside]

theorem get_eq {p : Frame.Place} (h : f.Has p) :
    table.get (f.number p) = .ok (table.anchor (f.number p)) :=
  get_eq_ok.2 (anchor_eq same h)

/-- A table is so short that no length of a frame with its cells wraps. -/
theorem fits : f.Fits := by
  intro scale kind
  have cells : (f.scales.get scale).cells ≤ f.cells.toList.foldr (· + ·) 0 := by
    rw [f.cells_toList, ← List.sum_eq_foldr]
    exact List.le_sum_of_mem (List.mem_map_of_mem (List.mem_finRange scale))
  have few := table.size_le
  rw [anchors_size same, Frame.anchorCount] at few
  have channels : kind.channels ≤ 20 := by cases kind <;> decide
  have most := Nat.mul_le_mul_right (f.scales.get scale).cells channels
  simp only [anchorsPerCell, maxSize, UInt64.size] at *
  omega

end AnchorTable

namespace Detection

variable (f : Frame) (table : AnchorTable)

def ofPlace (p : Frame.Place) : Detection where
  score := .ofValue (f.probability p)
  box := (table.anchor (f.number p)).decode (f.valuesOf p .location)
  landmarks := (table.anchor (f.number p)).decodeLandmarks (f.valuesOf p .landmarks)

def faceOfPlace (l : Letterbox) (p : Frame.Place) : Face where
  score := f.probability p
  box := l.mapBox ((table.anchor (f.number p)).decode (f.valuesOf p .location))
  landmarks := l.mapLandmarks
    ((table.anchor (f.number p)).decodeLandmarks (f.valuesOf p .landmarks))

abbrev ClashAt (threshold : Float32) (p q : Frame.Place) : Prop :=
  Clash threshold (ofPlace f table p) (ofPlace f table q)

theorem face_ofPlace (l : Letterbox) (p : Frame.Place) :
    face l (ofPlace f table p) = faceOfPlace f table l p := by
  rw [face, ofPlace, faceOfPlace, Score.ofValue, Score.value, Float32.ofBits_toBits]

variable {f table} (same : f.cells = table.cells)
include same

theorem ofCandidate_eq {p : Frame.Place} (h : f.Has p) :
    ofCandidate table (.ofPlace f p) = .ok (ofPlace f table p) := by
  rw [ofCandidate, Candidate.ofPlace, AnchorTable.get_eq same h]
  rfl

theorem detect_eq_suppress (s : DetectSettings) :
    detect f table s = .ok
      ((suppress s.overlapThreshold ((f.passing s.scoreThreshold).map (ofPlace f table))).map
        (face (.ofSize s.width s.height))) := by
  have collected := Candidate.collect_eq s.scoreThreshold (AnchorTable.fits same) #[]
  have detections :
      ((f.passing s.scoreThreshold).map (Candidate.ofPlace f)).mapM (ofCandidate table) =
        .ok ((f.passing s.scoreThreshold).map (ofPlace f table)) := by
    rw [List.mapM_map]
    exact mapM_eq_pure fun p hp ↦ ofCandidate_eq same ((f.mem_passing _ p).1 hp).1
  rw [detect, if_neg (not_not_intro same), collected]
  show (((f.passing s.scoreThreshold).map (Candidate.ofPlace f)).mapM (ofCandidate table) >>= _) = _
  rw [detections]
  rfl

theorem detect_eq (s : DetectSettings) :
    detect f table s = .ok
      ((greedy (ClashAt f table s.overlapThreshold)
        (rankedBy (ofPlace f table) (f.passing s.scoreThreshold))).map
          (faceOfPlace f table (.ofSize s.width s.height))) := by
  rw [detect_eq_suppress same, suppress_map, List.map_map]
  congr 2
  funext p
  exact face_ofPlace f table _ p

theorem detect_of_passing_singleton {s : DetectSettings} {p : Frame.Place}
    (alone : f.passing s.scoreThreshold = [p]) :
    detect f table s = .ok [faceOfPlace f table (.ofSize s.width s.height) p] := by
  rw [detect_eq same, alone, rankedBy, List.mergeSort_singleton]
  rfl

theorem detect_ne_nil {s : DetectSettings} {faces : List Face} (found : detect f table s = .ok faces)
    {p : Frame.Place} (has : f.Has p) (pass : s.scoreThreshold ≤ f.probability p) : faces ≠ [] := by
  have listed : p ∈ rankedBy (ofPlace f table) (f.passing s.scoreThreshold) :=
    (rankedBy_perm _ _).mem_iff.2 ((f.mem_passing _ p).2 ⟨has, pass⟩)
  obtain ⟨first, rest, order⟩ := List.exists_cons_of_ne_nil (List.ne_nil_of_mem listed)
  obtain ⟨more, -, taken⟩ := greedy_split (ClashAt f table s.overlapThreshold) [first] rest
  rw [detect_eq same, order, ← List.singleton_append, taken, Except.ok.injEq] at found
  rw [← found]
  exact List.cons_ne_nil _ _

omit same

theorem half_le_probability_zeros (cells : Vector Nat scaleCount) (p : Frame.Place) :
    0.5 ≤ (Frame.zeros cells).probability p := by
  have blank : (ScaleTensors.zeros (cells.get p.scale)).conf.valuesOf p.cell p.anchor =
    .replicate _ 0 := ScaleTensors.valuesOf_zeros _ .confidence _ _
  rw [Frame.probability, Frame.scales_zeros, ScaleTensors.probability, blank]
  decide +kernel

theorem greedy_numbers_nodup (s : DetectSettings) {order : List Frame.Place}
    (perm : order.Perm (f.passing s.scoreThreshold)) :
    ((greedy (ClashAt f table s.overlapThreshold) order).map f.number).Nodup := by
  have numbers : ((f.passing s.scoreThreshold).map f.number).Nodup :=
    List.pairwise_map.2 ((f.passing_pairwise s.scoreThreshold).imp Nat.ne_of_lt)
  have sub := (greedy_sublist (ClashAt f table s.overlapThreshold) order).map f.number
  exact ((perm.map f.number).nodup_iff.2 numbers).sublist sub

variable (f table) in
/-- Where the cells of frame and table are the same, detection takes up the anchors that pass the
score threshold in order of falling score, those with equal scores by their numbers, and gives one
face for each that clashes with none taken before. -/
theorem detect_faces (s : DetectSettings) :
    (f.cells ≠ table.cells → detect f table s = .ok []) ∧
    (f.cells = table.cells →
      (∀ p, f.Has p →
        table.anchors[f.number p]? = some (table.anchor (f.number p)) ∧
        ∀ (kind : TensorKind) (k : Fin kind.width),
          f.value? p kind k = some ((f.valuesOf p kind).get k)) ∧
      ∃ order : List Frame.Place,
        (∀ p, p ∈ order ↔ f.Has p ∧ s.scoreThreshold ≤ f.probability p) ∧
        order.Pairwise (Ahead (ofPlace f table) fun p q ↦ f.number p < f.number q) ∧
        ((greedy (ClashAt f table s.overlapThreshold) order).map f.number).Nodup ∧
        detect f table s = .ok
          ((greedy (ClashAt f table s.overlapThreshold) order).map
            (faceOfPlace f table (.ofSize s.width s.height)))) := by
  refine ⟨fun differ ↦ if_pos differ, fun same ↦ ⟨fun p h ↦ ?_, ?_⟩⟩
  · exact ⟨AnchorTable.anchor_eq same h, f.value?_eq (AnchorTable.fits same) h⟩
  · have perm := rankedBy_perm (ofPlace f table) (f.passing s.scoreThreshold)
    refine ⟨rankedBy (ofPlace f table) (f.passing s.scoreThreshold), fun p ↦ ?_,
      rankedBy_ahead _ (f.passing_pairwise s.scoreThreshold), greedy_numbers_nodup s perm,
      detect_eq same s⟩
    rw [perm.mem_iff, f.mem_passing]

end Detection

end FaceDecode
