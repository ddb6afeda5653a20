import FaceDecode.Detector.Basic
import FaceDecode.Proofs.Detection.Faces
import FaceDecode.Proofs.Exposure.Windows
import FaceDecode.Proofs.Geometry.Letterbox

namespace FaceDecode

namespace Detection

variable {f : Frame} {table : AnchorTable} {s : DetectSettings} {faces : List Face}

theorem exists_places (h : detect f table s = .ok faces) :
    ∃ ps : List Frame.Place, (∀ p ∈ ps, s.scoreThreshold ≤ f.probability p) ∧
      ps.Pairwise (Ahead (ofPlace f table) fun p q ↦ f.number p < f.number q) ∧
      faces = ps.map (faceOfPlace f table (.ofSize s.width s.height)) := by
  by_cases same : f.cells = table.cells
  · have sub := greedy_sublist (ClashAt f table s.overlapThreshold)
      (rankedBy (ofPlace f table) (f.passing s.scoreThreshold))
    rw [detect_eq same, Except.ok.injEq] at h
    refine ⟨_, fun p hp ↦ ?_, (rankedBy_ahead _ (f.passing_pairwise _)).sublist sub, h.symm⟩
    have passing := (rankedBy_perm _ _).mem_iff.1 (sub.subset hp)
    exact ((f.mem_passing _ p).1 passing).2
  · rw [detect, if_pos same, Except.ok.injEq] at h
    exact ⟨[], by simp, .nil, h.symm⟩

theorem le_score (h : detect f table s = .ok faces) : ∀ face ∈ faces, s.scoreThreshold ≤ face.score := by
  obtain ⟨ps, pass, -, rfl⟩ := exists_places h
  simpa [faceOfPlace] using pass

theorem scores_fall (h : detect f table s = .ok faces) :
    faces.Pairwise fun a b ↦ b.score ≤ a.score := by
  obtain ⟨ps, pass, ahead, rfl⟩ := exists_places h
  rw [List.pairwise_map]
  refine ahead.imp_of_mem fun {p q} hp hq hpq ↦ ?_
  have number_p := (Number.not_isNaN_of_le (pass p hp)).2
  have number_q := (Number.not_isNaN_of_le (pass q hq)).2
  refine Score.le_of_rank_le number_q number_p ?_
  rcases hpq with higher | ⟨equal, -⟩
  · exact Int.le_of_lt higher
  · exact Int.le_of_eq equal.symm

theorem boxes_within (hw : s.width ≠ 0) (hh : s.height ≠ 0) (h : detect f table s = .ok faces) :
    ∀ face ∈ faces,
      face.box.Within (min s.width.toNat 0x7fffffff) (min s.height.toNat 0x7fffffff) := by
  have pos {n : UInt32} (hn : n ≠ 0) : 1 ≤ (signedHeld n).toInt := by
    have : n.toNat ≠ 0 := mt (UInt32.toNat_inj (b := 0)).1 hn
    rw [toInt_signedHeld]
    omega
  obtain ⟨ps, -, -, rfl⟩ := exists_places h
  intro face hface
  obtain ⟨p, -, rfl⟩ := List.mem_map.1 hface
  rw [← toInt_signedHeld, ← toInt_signedHeld]
  exact Letterbox.mapBox_within (l := .ofSize s.width s.height) (pos hw) (pos hh) _

end Detection

theorem DetectorDraft.fault?_eq_none_iff (draft : DetectorDraft) :
    draft.fault? = none ↔
      (∀ p ∈ draft.thresholds, inUnit p.2) ∧ ∀ p ∈ draft.sizes, p.2 ≠ 0 := by
  unfold fault?
  split
  case h_1 setting threshold found =>
    have outside : ¬ inUnit threshold := by simpa using List.find?_some found
    have there : (setting, threshold) ∈ draft.thresholds := List.mem_of_find?_eq_some found
    exact iff_of_false (by simp) fun sound ↦ outside (sound.1 (setting, threshold) there)
  case h_2 absent =>
    rw [List.find?_eq_none] at absent
    have inside : ∀ p ∈ draft.thresholds, inUnit p.2 := by simpa using absent
    rw [Option.map_eq_none_iff, List.find?_eq_none, and_iff_right inside]
    simp

namespace Detector

variable {f : Frame} {d : Detector} {draft : DetectorDraft}

theorem mismatch?_eq_none_iff : mismatch? f = none ↔ f.cells = AnchorTable.input.cells := by
  rw [mismatch?, List.find?_eq_none]
  constructor
  · intro h
    refine Vector.ext fun i hi ↦ ?_
    have there := h ⟨i, hi⟩ (List.mem_finRange _)
    rw [Bool.not_eq_true, bne_eq_false_iff_eq] at there
    exact there.symm
  · intro h scale _
    rw [h, bne_self_eq_false]
    exact Bool.false_ne_true

theorem run_build (sound : draft.fault? = none) (log : Log) :
    (build draft).run.run log = (.ok ⟨draft, sound⟩, log.push ⟨.info, summary draft⟩) := by
  unfold build
  split
  case h_1 faulty =>
    rw [sound] at faulty
    cases faulty
  case h_2 => rfl

theorem draft_of_build {log log' : Log} (built : (build draft).run.run log = (.ok d, log')) :
    d.draft = draft := by
  unfold build at built
  split at built
  case h_1 => cases built
  case h_2 =>
    cases built
    rfl

theorem run_infer {faces : List Face} (same : f.cells = AnchorTable.input.cells)
    (found : Detection.detect f .input d.detect = .ok faces) (log : Log) :
    (d.infer f).run.run log =
      if d.exposure.enabled then
        (.ok { faces, exposure := some (d.exposure.windows (faces.map (·.box))) },
          log ++ ((d.exposure.dropped (faces.map (·.box))).map ExposureSettings.droppedLine).toArray)
      else (.ok { faces }, log) := by
  rw [infer, mismatch?_eq_none_iff.2 same, found]
  change (if _ then _ else _ : Logging InferError Report).run.run log = _
  split
  case isTrue => exact run_bind_ok (d.exposure.run_build _ log)
  case isFalse => rfl

/-- A detector that has been built gives a report of every frame of its shape. All boxes lie inside
the picture, whose sides are held at the largest signed number, and the scores fall and reach the
threshold. -/
theorem infer_within {log log' : Log} (built : (build draft).run.run log = (.ok d, log'))
    (f : Frame) (same : f.cells = AnchorTable.input.cells) (later : Log) :
    ∃ report later', (d.infer f).run.run later = (.ok report, later') ∧
      (∀ face ∈ report.faces, face.box.Within (min draft.detect.width.toNat 0x7fffffff)
        (min draft.detect.height.toNat 0x7fffffff)) ∧
      (report.faces.Pairwise fun a b ↦ b.score ≤ a.score) ∧
      ∀ face ∈ report.faces, draft.detect.scoreThreshold ≤ face.score := by
  obtain rfl := draft_of_build built
  have found := Detection.detect_eq same d.detect
  have sizes := (d.draft.fault?_eq_none_iff.1 d.fault_eq_none).2
  have wide : d.detect.width ≠ 0 := sizes (.inputWidth, _) (by simp [DetectorDraft.sizes, detect])
  have high : d.detect.height ≠ 0 := sizes (.inputHeight, _) (by simp [DetectorDraft.sizes, detect])
  have within := Detection.boxes_within wide high found
  have ran := run_infer same found later
  split at ran
  all_goals exact ⟨_, _, ran, within, Detection.scores_fall found, Detection.le_score found⟩

theorem infer_within_flat_picture :
    ∃ d log', (build { detect := { scoreThreshold := 0.5, width := 0xffffffff, height := 1 } }).run.run
        #[] = (.ok d, log') ∧
      ∃ report later', (d.infer (.zeros AnchorTable.input.cells)).run.run log' =
          (.ok report, later') ∧
        ∀ face ∈ report.faces, face.box.Within 0x7fffffff 1 := by
  let draft : DetectorDraft :=
    { detect := { scoreThreshold := 0.5, width := 0xffffffff, height := 1 } }
  have sound : draft.fault? = none := draft.fault?_eq_none_iff.2 (by decide)
  have same : (Frame.zeros AnchorTable.input.cells).cells = AnchorTable.input.cells := by
    simp [Frame.cells, Frame.zeros, ScaleTensors.zeros, Function.comp_def]
  have built := run_build sound #[]
  obtain ⟨report, later', ran, within, -⟩ := infer_within built _ same _
  exact ⟨_, _, built, report, later', ran, within⟩

end Detector

end FaceDecode
