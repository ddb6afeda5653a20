import FaceDecode.Proofs.Detection.Independence
import FaceDecode.Proofs.Detection.Reruns
import FaceDecode.Proofs.Number.Range

namespace FaceDecode

namespace CenterBox

open Number

/-- The centre and the sides are no further than `2 ^ 60` from zero, so that areas stay finite. -/
structure Moderate (b : CenterBox) : Prop where
  cx : Bounded 60 b.cx
  cy : Bounded 60 b.cy
  w : Bounded 60 b.w
  h : Bounded 60 b.h

instance (b : CenterBox) : Decidable b.Moderate :=
  decidable_of_iff (Bounded 60 b.cx ∧ Bounded 60 b.cy ∧ Bounded 60 b.w ∧ Bounded 60 b.h)
    ⟨fun ⟨cx, cy, w, h⟩ ↦ ⟨cx, cy, w, h⟩, fun b ↦ ⟨b.cx, b.cy, b.w, b.h⟩⟩

theorem bounded_overlap {c₁ w₁ c₂ w₂ : Float32} (hc₁ : Bounded 60 c₁) (hw₁ : Bounded 60 w₁)
    (hc₂ : Bounded 60 c₂) (hw₂ : Bounded 60 w₂) : Bounded 62 (overlap c₁ w₁ c₂ w₂) := by
  have half {w : Float32} (hw : Bounded 60 w) : Bounded 60 (w / 2) := hw.half (by decide)
  have upper {c w : Float32} (hc : Bounded 60 c) (hw : Bounded 60 w) : Bounded 61 (c + w / 2) :=
    hc.add (half hw) (by decide)
  have lower {c w : Float32} (hc : Bounded 60 c) (hw : Bounded 60 w) : Bounded 61 (c - w / 2) :=
    hc.sub (half hw) (by decide)
  have upperEnd := (upper hc₁ hw₁).smaller (upper hc₂ hw₂)
  have lowerEnd := (lower hc₁ hw₁).larger (lower hc₂ hw₂)
  exact upperEnd.sub lowerEnd (by decide)

namespace Moderate

variable {a b : CenterBox} (ha : a.Moderate) (hb : b.Moderate)
include ha

theorem area : Bounded 120 a.area :=
  ha.w.mul ha.h (by decide)

include hb

theorem intersection : Bounded 124 (a.intersection b) := by
  have w := bounded_overlap ha.cx ha.w hb.cx hb.w
  have h := bounded_overlap ha.cy ha.h hb.cy hb.h
  simp only [CenterBox.intersection]
  split_ifs
  · exact .zero
  · exact w.mul h (by decide)

theorem isNaN_iou : (a.iou b).isNaN = false := by
  have shared := ha.intersection hb
  have areas : Bounded 121 (a.area + b.area) := ha.area.add hb.area (by decide)
  have covered : Bounded 125 (a.area + b.area - a.intersection b) :=
    (areas.mono (by decide)).sub shared (by decide)
  simp only [iou]
  split_ifs with nothing
  · rfl
  · exact shared.isNaN_div covered nothing

end Moderate

/-- Boxes that do not overlap as far as the threshold. -/
structure Apart (threshold : Float32) (a b : CenterBox) : Prop where
  below_or_isNaN : a.iou b < threshold ∨ (a.iou b).isNaN = true
  below : a.Moderate → b.Moderate → a.iou b < threshold

theorem apart_of_not_le {threshold : Float32} (number : threshold.isNaN = false) {a b : CenterBox}
    (h : ¬ threshold ≤ a.iou b) : Apart threshold a b := by
  have below (known : (a.iou b).isNaN = false) : a.iou b < threshold := lt_of_not_le number known h
  refine ⟨?_, fun ha hb ↦ below (ha.isNaN_iou hb)⟩
  cases known : (a.iou b).isNaN with
  | false => exact .inl (below known)
  | true => exact .inr rfl

end CenterBox

def Frame.Finite (f : Frame) : Prop :=
  ∀ s ∈ f.scales.toList,
    ∀ x ∈ s.conf.values.toList ++ s.loc.values.toList ++ s.landms.values.toList, x.isFinite = true

instance (f : Frame) : Decidable f.Finite :=
  inferInstanceAs (Decidable (∀ s ∈ f.scales.toList, _))

def AnchorTable.Finite (t : AnchorTable) : Prop :=
  ∀ b ∈ t.anchors.toList, ∀ x ∈ [b.cx, b.cy, b.w, b.h], x.isFinite = true

instance (t : AnchorTable) : Decidable t.Finite :=
  inferInstanceAs (Decidable (∀ b ∈ t.anchors.toList, _))

namespace Detection

open CenterBox

theorem suppress_apart {threshold : Float32} (number : threshold.isNaN = false)
    (ds : List Detection) : (suppress threshold ds).Pairwise fun a b ↦
      Apart threshold a.box b.box ∧ Apart threshold b.box a.box := by
  refine (suppress_pairwise threshold ds).imp fun {a b} h ↦ ?_
  have clashless : ¬ Clash threshold b a := mt (clash_comm threshold b a).1 h.2
  exact ⟨apart_of_not_le number h.2, apart_of_not_le number clashless⟩

variable (f : Frame) (table : AnchorTable)

/-- No two faces of a frame have boxes that overlap as far as the threshold; if the boxes are
moderate, they overlap less. -/
theorem detect_apart (s : DetectSettings) (number : s.overlapThreshold.isNaN = false) :
    ∃ survivors : List Detection,
      detect f table s = .ok (survivors.map (face (.ofSize s.width s.height))) ∧
      (f.cells = table.cells → survivors =
        suppress s.overlapThreshold ((f.passing s.scoreThreshold).map (ofPlace f table))) ∧
      survivors.Pairwise fun a b ↦
        Apart s.overlapThreshold a.box b.box ∧ Apart s.overlapThreshold b.box a.box := by
  by_cases same : f.cells = table.cells
  · exact ⟨_, detect_eq_suppress same s, fun _ ↦ rfl, suppress_apart number _⟩
  · exact ⟨[], if_pos same, fun h ↦ absurd h same, .nil⟩

section Lone

variable (loc : Vector Float32 8) (landms : Vector Float32 20)

theorem same_cells_lone : (lone loc landms).cells = loneTable.cells :=
  (cells_lone loc landms).trans (by decide +kernel)

theorem passing_lone : (lone loc landms).passing 0.5 = [⟨0, 0, 0⟩, ⟨0, 0, 1⟩] := by
  have places : (lone (.replicate 8 0) (.replicate 20 0)).places = [⟨0, 0, 0⟩, ⟨0, 0, 1⟩] := rfl
  rw [(lone_alike loc (.replicate 8 0) landms (.replicate 20 0)).passing_eq, Frame.passing, places,
    List.filter_eq_self]
  decide +kernel

variable {loc landms} in
theorem suppress_lone (apart : ¬ ClashAt (lone loc landms) loneTable 0.5 ⟨0, 0, 0⟩ ⟨0, 0, 1⟩) :
    suppress 0.5 (((lone loc landms).passing 0.5).map (ofPlace (lone loc landms) loneTable)) =
      [ofPlace (lone loc landms) loneTable ⟨0, 0, 0⟩,
        ofPlace (lone loc landms) loneTable ⟨0, 0, 1⟩] := by
  have alike := lone_alike loc (.replicate 8 0) landms (.replicate 20 0)
  rw [passing_lone]
  refine suppress_of_pairwise (List.pairwise_pair.2 ⟨?_, apart⟩)
  rw [precedes, score_ofPlace_eq alike, score_ofPlace_eq alike]
  decide +kernel

end Lone

theorem detect_apart_lone : (0.5 : Float32).isNaN = false ∧
    ∃ a b : Detection,
      detect (lone (.replicate 8 0) (.replicate 20 0)) loneTable { scoreThreshold := 0.5 } =
        .ok ([a, b].map (face (.ofSize 1280 720))) ∧
      a.box.Moderate ∧ b.box.Moderate ∧ a.box.iou b.box < 0.5 := by
  have number : (0.5 : Float32).isNaN = false := rfl
  obtain ⟨survivors, found, suppressed, apart⟩ :=
    detect_apart (lone (.replicate 8 0) (.replicate 20 0)) loneTable { scoreThreshold := 0.5 } number
  have kept := (suppressed (same_cells_lone _ _)).trans (suppress_lone (by decide +kernel))
  rw [kept] at found apart
  have moderate : (ofPlace (lone (.replicate 8 0) (.replicate 20 0)) loneTable ⟨0, 0, 0⟩).box.Moderate ∧
      (ofPlace (lone (.replicate 8 0) (.replicate 20 0)) loneTable ⟨0, 0, 1⟩).box.Moderate := by
    decide +kernel
  have separate := (List.pairwise_pair.1 apart).1
  exact ⟨number, _, _, found, moderate.1, moderate.2, separate.below moderate.1 moderate.2⟩

/-- The network stretches both anchors so far that the boxes are infinitely wide. -/
def oversized : Frame := lone #v[0, 0, 1000, 0, 0, 0, 1000, 0] (.replicate 20 0)

/-- The covered area of the two boxes is no number, so how far they overlap is none either. -/
theorem detect_oversized : oversized.Finite ∧ loneTable.Finite ∧ ∃ a b : Detection,
    detect oversized loneTable { scoreThreshold := 0.5 } =
      .ok ([a, b].map (face (.ofSize 1280 720))) ∧
    suppress 0.5 ((oversized.passing 0.5).map (ofPlace oversized loneTable)) = [a, b] ∧
    (a.box.iou b.box).isNaN = true ∧ ¬ a.box.iou b.box < 0.5 := by
  have kept := @suppress_lone #v[0, 0, 1000, 0, 0, 0, 1000, 0] (.replicate 20 0)
    (by decide +kernel)
  have same : oversized.cells = loneTable.cells := same_cells_lone _ _
  refine ⟨by decide +kernel, by decide +kernel, _, _, ?_, kept, by decide +kernel, by decide +kernel⟩
  rw [detect_eq_suppress same]
  exact congrArg (fun ds : List Detection ↦ Except.ok (ds.map (face (.ofSize 1280 720)))) kept

end Detection

end FaceDecode
