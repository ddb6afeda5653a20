import FaceDecode.Geometry.PixelBox

namespace FaceDecode

theorem toInt_min (a b : Int32) : (min a b).toInt = min a.toInt b.toInt := by
  change (if a ≤ b then a else b).toInt = _
  split
  case isTrue h => rw [Int.min_eq_left (Int32.le_iff_toInt_le.1 h)]
  case isFalse h =>
    rw [Int32.le_iff_toInt_le] at h
    omega

theorem toInt_max (a b : Int32) : (max a b).toInt = max a.toInt b.toInt := by
  change (if a ≤ b then b else a).toInt = _
  split
  case isTrue h => rw [Int.max_eq_right (Int32.le_iff_toInt_le.1 h)]
  case isFalse h =>
    rw [Int32.le_iff_toInt_le] at h
    omega

theorem toInt_signedHeld (n : UInt32) : (signedHeld n).toInt = min (n.toNat : Int) 0x7fffffff := by
  unfold signedHeld Int32.ofIntClamp
  have low : Int32.minValue.toInt ≤ n.toNat := Int.le_trans (by decide) (Int.natCast_nonneg _)
  rw [dif_pos low]
  have top : Int32.maxValue.toInt = 0x7fffffff := by decide
  split
  case isTrue h =>
    rw [Int32.toInt_ofIntLE]
    omega
  case isFalse h => omega

structure PixelBox.Within (b : PixelBox) (width height : Int) : Prop where
  left : 1 ≤ b.x1.toInt
  across : b.x1.toInt ≤ b.x2.toInt
  right : b.x2.toInt ≤ width
  top : 1 ≤ b.y1.toInt
  down : b.y1.toInt ≤ b.y2.toInt
  bottom : b.y2.toInt ≤ height

namespace Letterbox

variable {size : Int32} (pad low : Int32) (v : Float32)

theorem lowEnd_bounds (h : 1 ≤ size.toInt) :
    1 ≤ (lowEnd size pad v).toInt ∧ (lowEnd size pad v).toInt ≤ size.toInt := by
  rw [lowEnd, toInt_min, toInt_max]
  change 1 ≤ min (max _ 1) _ ∧ _
  omega

theorem highEnd_bounds (h : low.toInt ≤ size.toInt) :
    low.toInt ≤ (highEnd size pad low v).toInt ∧ (highEnd size pad low v).toInt ≤ size.toInt := by
  rw [highEnd, toInt_max, toInt_min]
  omega

theorem mapBox_within {l : Letterbox} (hw : 1 ≤ l.width.toInt) (hh : 1 ≤ l.height.toInt)
    (b : CenterBox) : (l.mapBox b).Within l.width.toInt l.height.toInt := by
  have left := lowEnd_bounds l.padX (b.cx * l.scale - b.w * l.scale / 2) hw
  have top := lowEnd_bounds l.padY (b.cy * l.scale - b.h * l.scale / 2) hh
  have right := highEnd_bounds l.padX _ (b.cx * l.scale + b.w * l.scale / 2) left.2
  have bottom := highEnd_bounds l.padY _ (b.cy * l.scale + b.h * l.scale / 2) top.2
  exact ⟨left.1, right.1, right.2, top.1, bottom.1, bottom.2⟩

end Letterbox

end FaceDecode
