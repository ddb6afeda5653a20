import FaceDecode.Geometry.CenterBox
import FaceDecode.Proofs.Number.ZeroSign

namespace FaceDecode.CenterBox

open Number

theorem overlap_comm (c₁ w₁ c₂ w₂ : Float32) :
    Alike (overlap c₁ w₁ c₂ w₂) (overlap c₂ w₂ c₁ w₁) :=
  .sub (smaller_comm _ _) (larger_comm _ _)

theorem intersection_comm (a b : CenterBox) : Alike (a.intersection b) (b.intersection a) := by
  have hw := overlap_comm a.cx a.w b.cx b.w
  have hh := overlap_comm a.cy a.h b.cy b.h
  have below : overlap a.cx a.w b.cx b.w < 0 ∨ overlap a.cy a.h b.cy b.h < 0 ↔
      overlap b.cx b.w a.cx a.w < 0 ∨ overlap b.cy b.h a.cy a.h < 0 :=
    or_congr (hw.lt_iff (.refl 0)) (hh.lt_iff (.refl 0))
  unfold intersection
  by_cases h : overlap a.cx a.w b.cx b.w < 0 ∨ overlap a.cy a.h b.cy b.h < 0
  · rw [if_pos h, if_pos (below.1 h)]
    exact .refl 0
  · rw [if_neg h, if_neg (mt below.2 h)]
    exact .mul hw hh

theorem iou_comm (a b : CenterBox) : Alike (a.iou b) (b.iou a) := by
  have shared := intersection_comm a b
  have covered : Alike (a.area + b.area - a.intersection b) (b.area + a.area - b.intersection a) := by
    rw [Number.add_comm b.area]
    exact .sub (.refl _) shared
  unfold iou
  by_cases h : a.area + b.area - a.intersection b ≤ 0
  · rw [if_pos h, if_pos ((covered.le_iff (.refl 0)).1 h)]
    exact .refl 0
  · rw [if_neg h, if_neg (mt (covered.le_iff (.refl 0)).2 h), ← covered.eq_of_not_le_zero h]
    exact shared.div _

theorem le_iou_comm (threshold : Float32) (a b : CenterBox) :
    threshold ≤ a.iou b ↔ threshold ≤ b.iou a :=
  Alike.le_iff (.refl threshold) (iou_comm a b)

end FaceDecode.CenterBox
