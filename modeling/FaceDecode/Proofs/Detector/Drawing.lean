import FaceDecode.Proofs.Detector.Agreement
import FaceDecode.Proofs.Picture.Overflow
import FaceDecode.Proofs.Tensor.Writing

namespace FaceDecode

namespace Detection

variable {f : Frame} {table : AnchorTable} {s : DetectSettings} {faces : List Face}

theorem exists_place_of_mem (same : f.cells = table.cells) (found : detect f table s = .ok faces)
    {face : Face} (h : face ∈ faces) : ∃ p, f.Has p ∧ s.scoreThreshold ≤ f.probability p ∧
      face = faceOfPlace f table (.ofSize s.width s.height) p := by
  rw [detect_eq same, Except.ok.injEq] at found
  subst found
  obtain ⟨p, hp, rfl⟩ := List.mem_map.1 h
  have passing := (rankedBy_perm _ _).mem_iff.1 ((greedy_sublist _ _).subset hp)
  obtain ⟨has, pass⟩ := (f.mem_passing _ p).1 passing
  exact ⟨p, has, pass, rfl⟩

theorem discFits_faceOfPlace (l : Letterbox) (p : Frame.Place) :
    (∀ q ∈ (faceOfPlace f table l p).landmarks.toList, Canvas.DiscFits q) ↔
      ∀ v ∈ ((table.anchor (f.number p)).decodeLandmarks (f.valuesOf p .landmarks)).toList,
        l.LeavesRoom v := by
  rw [faceOfPlace, Letterbox.mapLandmarks, Vector.toList_map, List.forall_mem_map]
  simp only [l.discFits_mapPoint]

end Detection

namespace Detector

variable {f : Frame} {d : Detector} {draft : DetectorDraft}

/-- Whatever the tensors hold, the boxes of a report can be drawn without leaving words of 32 bits. All
of its faces can be drawn so just where the discs of their points fit. A point lies where the network
puts it for an anchor that passes, and is not brought back to the picture. -/
theorem infer_draws {log log' : Log} (built : (build draft).run.run log = (.ok d, log'))
    (f : Frame) (same : f.cells = AnchorTable.input.cells) (later : Log) :
    ∃ report later', (d.infer f).run.run later = (.ok report, later') ∧
      (∀ face ∈ report.faces,
        Signed (face.box.x2.toInt - face.box.x1.toInt) ∧
        Signed (face.box.y2.toInt - face.box.y1.toInt) ∧
        ∀ c : Canvas, c.paintBoxChecked face.box = .ok (c.paintBox face.box)) ∧
      (∀ c c' : Canvas, c.drawFacesChecked report.faces = .ok c' ↔
        (∀ face ∈ report.faces, ∀ q ∈ face.landmarks.toList, Canvas.DiscFits q) ∧
          c' = c.drawFaces report.faces) ∧
      ∀ face ∈ report.faces, ∃ p, f.Has p ∧ draft.detect.scoreThreshold ≤ f.probability p ∧
        ((∀ q ∈ face.landmarks.toList, Canvas.DiscFits q) ↔
          ∀ v ∈ ((AnchorTable.input.anchor (f.number p)).decodeLandmarks
            (f.valuesOf p .landmarks)).toList,
              (Letterbox.ofSize draft.detect.width draft.detect.height).LeavesRoom v) := by
  obtain rfl := draft_of_build built
  obtain ⟨report, later', ran, found, -⟩ := d.exists_report same later
  obtain ⟨⟨wide, high⟩, -⟩ := d.sides_ne_zero
  have within := Detection.boxes_within wide high found
  refine ⟨report, later', ran, fun face hface ↦ ?_, fun c c' ↦ ?_, fun face hface ↦ ?_⟩
  · have inside := within face hface
    obtain ⟨left, across, right, top, down, bottom⟩ := inside
    have lengths : Signed (face.box.x2.toInt - face.box.x1.toInt) ∧
        Signed (face.box.y2.toInt - face.box.y1.toInt) := by
      unfold Signed
      omega
    exact ⟨lengths.1, lengths.2, fun c ↦ Canvas.paintBoxChecked_eq (within face hface) c⟩
  · exact Canvas.drawFacesChecked_eq_ok within
  · obtain ⟨p, has, pass, rfl⟩ := Detection.exists_place_of_mem same found hface
    exact ⟨p, has, pass, Detection.discFits_faceOfPlace _ p⟩

theorem infer_draws_flat_picture :
    ∃ d log', (build { detect := { scoreThreshold := 0.5, width := 0xffffffff, height := 1 } }).run.run
        #[] = (.ok d, log') ∧
      ∃ report later', (d.infer (.zeros AnchorTable.input.cells)).run.run log' =
          (.ok report, later') ∧
        ∀ face ∈ report.faces, ∀ c : Canvas, c.paintBoxChecked face.box = .ok (c.paintBox face.box) := by
  let draft : DetectorDraft :=
    { detect := { scoreThreshold := 0.5, width := 0xffffffff, height := 1 } }
  have sound : draft.fault? = none := draft.fault?_eq_none_iff.2 (by decide)
  have built := run_build sound #[]
  obtain ⟨report, later', ran, boxes, -⟩ := infer_draws built _ (Frame.cells_zeros _) _
  exact ⟨_, _, built, report, later', ran, fun face hface ↦ (boxes face hface).2.2⟩

theorem mapLandmarks_farRight :
    (((Letterbox.ofSize 1280 720).mapLandmarks ((AnchorTable.input.anchor 0).decodeLandmarks
      #v[1000000000, 0, 0, 0, 0, 0, 0, 0, 0, 0])).get 0).x.toInt = 2147483647 := by
  rw [anchor_zero]
  decide +kernel

/-- A detector with the usual settings reports a face that cannot be drawn: the disc of its first point
ends beyond the largest word. -/
theorem infer_draws_farRight : ∃ s f d log' report later' face,
    (ScaleTensors.zeros 1600).writeAll farRight = .ok s ∧
    f = ⟨#v[s, .zeros 400, .zeros 100]⟩ ∧ f.cells = AnchorTable.input.cells ∧
    (build {}).run.run #[] = (.ok d, log') ∧ (d.infer f).run.run log' = (.ok report, later') ∧
    report.faces = [face] ∧ (face.landmarks.get 0).x.toInt = 2147483647 ∧
    ¬ Signed ((face.landmarks.get 0).x.toInt + 3) ∧
    ∀ c c' : Canvas, c.drawFacesChecked report.faces ≠ .ok c' := by
  obtain ⟨s, f, written, made, same, alone, -, values⟩ := exists_farRight
  have sound : ({} : DetectorDraft).fault? = none :=
    ({} : DetectorDraft).fault?_eq_none_iff.2 (by decide)
  have found := Detection.detect_of_passing_singleton (s := {}) same alone
  obtain ⟨report, later', ran, found', -⟩ := exists_report (d := ⟨{}, sound⟩) same _
  have only := Except.ok.inj (found'.symm.trans found)
  have far : ((Detection.faceOfPlace f .input (.ofSize 1280 720) ⟨0, 0, 0⟩).landmarks.get 0).x.toInt =
      2147483647 := by
    have number : f.number ⟨0, 0, 0⟩ = 0 := rfl
    rw [Detection.faceOfPlace, values, number]
    exact mapLandmarks_farRight
  have beyond : ¬ Signed (2147483647 + 3) := by decide
  refine ⟨s, f, _, _, report, later', _, written, made, same, run_build sound #[], ran, only, far,
    far ▸ beyond, ?_⟩
  intro c c' drawn
  obtain ⟨⟨wide, high⟩, -⟩ := sides_ne_zero (d := ⟨{}, sound⟩)
  have within := Detection.boxes_within wide high found'
  obtain ⟨fits, -⟩ := (Canvas.drawFacesChecked_eq_ok within).1 drawn
  rw [only, List.forall_mem_singleton] at fits
  have room := (fits _ (Vector.mem_toList_iff.2 (Vector.getElem_mem (Nat.zero_lt_succ 4)))).x.2
  exact beyond (far ▸ room)

end Detector

end FaceDecode
