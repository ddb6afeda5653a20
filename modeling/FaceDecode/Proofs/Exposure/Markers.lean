import FaceDecode.Overlay
import FaceDecode.Proofs.Exposure.Windows
import Mathlib.Data.Nat.ModEq

namespace FaceDecode

/-- Inside the picture, where pixels are counted from zero. -/
structure PixelBox.Inside (b : PixelBox) (picture : Size) : Prop where
  left : 0 ≤ b.x1.toInt
  across : b.x1.toInt ≤ b.x2.toInt
  right : b.x2.toInt ≤ picture.width.toNat
  top : 0 ≤ b.y1.toInt
  down : b.y1.toInt ≤ b.y2.toInt
  bottom : b.y2.toInt ≤ picture.height.toNat

namespace ExposureAxis

variable (a : ExposureAxis)

theorem scaled_mono {m n : Nat} (h : m ≤ n) : a.scaled m ≤ a.scaled n :=
  Nat.div_le_div_right (Nat.mul_le_mul_right _ h)

theorem scaled_le_sensor {length : Nat} (h : length ≤ a.model.toNat) :
    a.scaled length ≤ a.sensor.toNat := by
  apply Nat.div_le_of_le_mul
  apply Nat.mul_le_mul_right
  omega

theorem scaled_add_le (m n : Nat) : a.scaled (m + n) ≤ a.scaled m + a.scaled n + 1 := by
  unfold scaled
  rw [Nat.add_mul]
  exact Nat.add_div_le_div_add_div_add_one _ _ _

theorem toNat_scale {x : Int32} (h : x.toInt ≤ a.model.toNat) :
    (Overlay.scale x a.sensor a.model).toNat = a.scaled (pixelLength x) := by
  have short : pixelLength x ≤ a.model.toNat := by
    simp only [pixelLength, Int32.toNatClampNeg]
    omega
  have fits := a.scaled_le_sensor short
  have bound := a.sensor.toNat_lt_size
  have unheld : min (a.scaled (pixelLength x)) (UInt32.size - 1) = a.scaled (pixelLength x) :=
    Nat.min_eq_left (by omega)
  change (UInt32.ofNat (min (a.scaled (pixelLength x)) (UInt32.size - 1))).toNat = _
  rw [unheld]
  apply UInt32.toNat_ofNat_of_lt'
  omega

/-- A stretch of the sensor against the two marks of the same stretch of the picture. -/
structure Marks (start stop first length : UInt32) : Prop where
  first_eq : first = start
  end_le : first.toNat + length.toNat ≤ stop.toNat
  le_end : stop.toNat ≤ first.toNat + length.toNat + 1

variable {a} {start stop : Int32}

theorem scale_le_scale (ordered : start.toInt ≤ stop.toInt) (high : stop.toInt ≤ a.model.toNat) :
    Overlay.scale start a.sensor a.model ≤ Overlay.scale stop a.sensor a.model := by
  rw [UInt32.le_iff_toNat_le, a.toNat_scale (by omega), a.toNat_scale high]
  apply a.scaled_mono
  simp only [pixelLength, Int32.toNatClampNeg]
  omega

theorem scale_le_sensor (high : stop.toInt ≤ a.model.toNat) :
    Overlay.scale stop a.sensor a.model ≤ a.sensor := by
  rw [UInt32.le_iff_toNat_le, a.toNat_scale high]
  apply a.scaled_le_sensor
  simp only [pixelLength, Int32.toNatClampNeg]
  omega

variable (unshifted : a.offset = 0)

include unshifted

theorem begins_eq_scaled (x : Int32) : a.begins x = a.scaled (pixelLength x) := by
  rw [begins, unshifted]
  exact Nat.add_zero _

theorem place_lt_iff_scale_lt (high : start.toInt ≤ a.model.toNat) :
    a.place start.toInt < a.sensor.toNat ↔ Overlay.scale start a.sensor a.model < a.sensor := by
  rw [← begins_eq, begins_eq_scaled unshifted, Int.ofNat_lt, UInt32.lt_iff_toNat_lt,
    a.toNat_scale high]

theorem marks_of_map {first length : UInt32} (low : 0 ≤ start.toInt)
    (ordered : start.toInt ≤ stop.toInt) (high : stop.toInt ≤ a.model.toNat)
    (h : a.map start stop = some (first, length)) :
    Marks (Overlay.scale start a.sensor a.model) (Overlay.scale stop a.sensor a.model)
      first length := by
  obtain ⟨inside, hf, hl⟩ := a.map_eq_some.1 h
  rw [begins_eq_scaled unshifted] at hf hl
  have whole : pixelLength start + (pixelLength stop - pixelLength start) = pixelLength stop := by
    simp only [pixelLength, Int32.toNatClampNeg]
    omega
  have below := a.scaled_add_scaled_le (pixelLength start) (pixelLength stop - pixelLength start)
  have above := a.scaled_add_le (pixelLength start) (pixelLength stop - pixelLength start)
  have fits : a.scaled (pixelLength stop) ≤ a.sensor.toNat := by
    apply a.scaled_le_sensor
    simp only [pixelLength, Int32.toNatClampNeg]
    omega
  rw [whole] at below above
  have last := a.toNat_scale high
  refine ⟨?_, ?_, ?_⟩
  · rw [← UInt32.toNat_inj, a.toNat_scale (by omega), hf]
  · omega
  · omega

end ExposureAxis

namespace ExposureSettings

/-- A window against the area that is marked for the same box. -/
structure Marked (area : DisplayArea) (w : ExposureWindow) : Prop where
  across : ExposureAxis.Marks area.left area.right w.left w.width
  down : ExposureAxis.Marks area.top area.bottom w.top w.height

def unshifted (picture sensor : Size) (enabled : Bool) : ExposureSettings where
  horizontal := { model := picture.width, sensor := sensor.width }
  vertical := { model := picture.height, sensor := sensor.height }
  enabled

variable {picture sensor : Size} {enabled : Bool} {shown : Nat} {b : PixelBox}

theorem onSensor_iff_area (inside : b.Inside picture) :
    (unshifted picture sensor enabled).OnSensor b ↔
      (Overlay.area ⟨picture, sensor, shown⟩ b).left < sensor.width ∧
        (Overlay.area ⟨picture, sensor, shown⟩ b).top < sensor.height := by
  have wide := inside.across.trans inside.right
  have high := inside.down.trans inside.bottom
  refine and_congr ?_ ?_
  · exact ExposureAxis.place_lt_iff_scale_lt (a := (unshifted picture sensor enabled).horizontal)
      rfl wide
  · exact ExposureAxis.place_lt_iff_scale_lt (a := (unshifted picture sensor enabled).vertical)
      rfl high

theorem marked_of_window? {w : ExposureWindow} (inside : b.Inside picture)
    (h : (unshifted picture sensor enabled).window? b = some w) :
    Marked (Overlay.area ⟨picture, sensor, shown⟩ b) w := by
  unfold window? at h
  split at h
  case h_1 across down =>
    cases h
    exact ⟨ExposureAxis.marks_of_map rfl inside.left inside.across inside.right across,
      ExposureAxis.marks_of_map rfl inside.top inside.down inside.bottom down⟩
  case h_2 => cases h

/-- Of the first eight boxes, those inside the picture give a window just where their mark begins
before the ends of the display. The window begins with the mark and ends with it, or one pixel before
it, and the mark lies on the display. -/
theorem build_marks {ε : Type} (picture sensor : Size) (enabled : Bool) (shown : Nat)
    (boxes : List PixelBox) (log : Log) :
    let s := unshifted picture sensor enabled
    let area := Overlay.area ⟨picture, sensor, shown⟩
    (∃ windows log', (s.build boxes : Logging ε _).run.run log = (.ok windows, log') ∧
      List.Forall₂ (fun b w ↦ b.Inside picture → Marked (area b) w)
        ((boxes.take 8).filter s.OnSensor) windows) ∧
    ∀ b : PixelBox, b.Inside picture →
      (s.OnSensor b ↔ (area b).left < sensor.width ∧ (area b).top < sensor.height) ∧
      ((area b).left ≤ (area b).right ∧ (area b).right ≤ sensor.width) ∧
      (area b).top ≤ (area b).bottom ∧ (area b).bottom ≤ sensor.height := by
  intro s area
  refine ⟨⟨_, _, s.run_build boxes log, ?_⟩, fun b inside ↦ ⟨onSensor_iff_area inside, ?_, ?_⟩⟩
  · refine (s.windows_forall₂ boxes).imp fun b w h inside ↦ ?_
    have marked : Marked (area b) { w with weight := 0 } := marked_of_window? inside h
    exact ⟨marked.across, marked.down⟩
  · exact ⟨ExposureAxis.scale_le_scale (a := s.horizontal) inside.across inside.right,
      ExposureAxis.scale_le_sensor (a := s.horizontal) inside.right⟩
  · exact ⟨ExposureAxis.scale_le_scale (a := s.vertical) inside.down inside.bottom,
      ExposureAxis.scale_le_sensor (a := s.vertical) inside.bottom⟩

theorem build_marks_thirds :
    (⟨1, 1, 2, 2⟩ : PixelBox).Inside ⟨3, 3⟩ ∧ ∃ w log',
      ((unshifted ⟨3, 3⟩ ⟨5, 5⟩ true).build [⟨1, 1, 2, 2⟩] : Logging Empty _).run.run #[] =
        (.ok [w], log') ∧
      Marked (Overlay.area ⟨⟨3, 3⟩, ⟨5, 5⟩, 1⟩ ⟨1, 1, 2, 2⟩) w := by
  have inside : (⟨1, 1, 2, 2⟩ : PixelBox).Inside ⟨3, 3⟩ := by
    constructor <;> decide
  obtain ⟨⟨windows, log', built, marked⟩, each⟩ :=
    build_marks (ε := Empty) ⟨3, 3⟩ ⟨5, 5⟩ true 1 [⟨1, 1, 2, 2⟩] #[]
  have kept : (unshifted ⟨3, 3⟩ ⟨5, 5⟩ true).OnSensor ⟨1, 1, 2, 2⟩ :=
    (each _ inside).1.2 (by decide)
  have first : ([⟨1, 1, 2, 2⟩] : List PixelBox).filter
      (unshifted ⟨3, 3⟩ ⟨5, 5⟩ true).OnSensor = [⟨1, 1, 2, 2⟩] := by simp [kept]
  rw [List.take_of_length_le (by decide), first, List.forall₂_cons_left_iff] at marked
  obtain ⟨w, none, hw, rest, rfl⟩ := marked
  rw [List.forall₂_nil_left_iff] at rest
  exact ⟨inside, w, log', rest ▸ built, hw inside⟩

end ExposureSettings

end FaceDecode
