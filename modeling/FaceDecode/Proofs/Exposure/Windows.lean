import FaceDecode.Exposure
import FaceDecode.Proofs.Logging
import Mathlib.Data.List.Forall2

namespace FaceDecode

theorem word?_eq_some {n : Nat} {w : UInt32} : word? n = some w ↔ w.toNat = n := by
  unfold word?
  split
  case isTrue h =>
    rw [Option.some_inj, ← UInt32.toNat_inj, UInt32.toNat_ofNat_of_lt' h]
    exact eq_comm
  case isFalse h =>
    refine iff_of_false (by simp) ?_
    rintro rfl
    exact h w.toNat_lt

namespace ExposureAxis

variable (a : ExposureAxis)

/-- The place on the sensor of a place in the picture, where all numbers are exact. -/
def place (x : Int) : Int := max x 0 * a.sensor.toNat / max a.model.toNat 1 + a.offset.toNat

theorem scaled_add (x : Int) : (a.scaled x.toNat + a.offset.toNat : Nat) = a.place x := by
  rw [scaled, place, ← Int.ofNat_toNat]
  push_cast
  rfl

theorem begins_eq (x : Int32) : (a.begins x : Int) = a.place x.toInt := a.scaled_add x.toInt

theorem scaled_add_scaled_le (m n : Nat) : a.scaled m + a.scaled n ≤ a.scaled (m + n) := by
  unfold scaled
  rw [Nat.add_mul]
  exact Nat.div_add_div_le_add_div

theorem map_eq_some {start stop : Int32} {first length : UInt32} :
    a.map start stop = some (first, length) ↔
      a.begins start < a.sensor.toNat ∧ first.toNat = a.begins start ∧
        length.toNat = min (a.scaled (pixelLength stop - pixelLength start))
          (a.sensor.toNat - a.begins start) := by
  simp only [map]
  split
  case isTrue outside => simp [Nat.not_lt.2 outside]
  case isFalse inside =>
    simp only [Option.bind_eq_some_iff, Option.map_eq_some_iff, word?_eq_some, Prod.mk.injEq]
    rw [and_iff_right (Nat.lt_of_not_le inside)]
    constructor
    · rintro ⟨_, hf, _, hl, rfl, rfl⟩
      exact ⟨hf, hl⟩
    · rintro ⟨hf, hl⟩
      exact ⟨_, hf, _, hl, rfl, rfl⟩

/-- All that can leave a stretch out is that it begins behind the sensor. -/
theorem map_isSome_iff (start stop : Int32) :
    (a.map start stop).isSome ↔ a.place start.toInt < a.sensor.toNat := by
  rw [← begins_eq, Int.ofNat_lt, Option.isSome_iff_exists]
  constructor
  · rintro ⟨⟨first, length⟩, h⟩
    exact ((a.map_eq_some).1 h).1
  · intro inside
    have hs : a.sensor.toNat < UInt32.size := a.sensor.toNat_lt
    refine ⟨(.ofNat (a.begins start), .ofNat (min (a.scaled (pixelLength stop - pixelLength start))
      (a.sensor.toNat - a.begins start))), a.map_eq_some.2 ⟨inside, ?_, ?_⟩⟩ <;>
      exact UInt32.toNat_ofNat_of_lt' (by omega)

/-- The stretch of the sensor for a stretch of the picture. -/
structure Spans (start stop : Int32) (first length : UInt32) : Prop where
  first_eq : first.toNat = a.place start.toInt
  first_lt : first.toNat < a.sensor.toNat
  end_le : first.toNat + length.toNat ≤ a.sensor.toNat
  end_le_place : first.toNat + length.toNat ≤ a.place (max stop.toInt start.toInt)

theorem spans_of_map {start stop : Int32} {first length : UInt32}
    (h : a.map start stop = some (first, length)) : a.Spans start stop first length := by
  obtain ⟨inside, hf, hl⟩ := a.map_eq_some.1 h
  have cut : length.toNat ≤ a.scaled (pixelLength stop - pixelLength start) :=
    hl ▸ Nat.min_le_left _ _
  have whole : a.begins start + a.scaled (pixelLength stop - pixelLength start) ≤
      a.scaled (max stop.toInt start.toInt).toNat + a.offset.toNat := by
    have sum := a.scaled_add_scaled_le (pixelLength start) (pixelLength stop - pixelLength start)
    have longer : pixelLength start + (pixelLength stop - pixelLength start) =
        (max stop.toInt start.toInt).toNat := by
      simp only [pixelLength, Int32.toNatClampNeg]
      omega
    rw [longer] at sum
    simp only [begins]
    omega
  refine ⟨?_, ?_, ?_, ?_⟩
  · rw [hf, begins_eq]
  · omega
  · omega
  · rw [← scaled_add]
    omega

end ExposureAxis

namespace ExposureSettings

variable (s : ExposureSettings)

/-- Whether a box begins on the sensor in both directions. -/
def OnSensor (b : PixelBox) : Prop :=
  s.horizontal.place b.x1.toInt < s.horizontal.sensor.toNat ∧
    s.vertical.place b.y1.toInt < s.vertical.sensor.toNat

instance (b : PixelBox) : Decidable (s.OnSensor b) := inferInstanceAs (Decidable (_ ∧ _))

structure Frames (b : PixelBox) (w : ExposureWindow) : Prop where
  across : s.horizontal.Spans b.x1 b.x2 w.left w.width
  down : s.vertical.Spans b.y1 b.y2 w.top w.height

theorem window?_isSome_iff {b : PixelBox} : (s.window? b).isSome ↔ s.OnSensor b := by
  rw [OnSensor, ← s.horizontal.map_isSome_iff b.x1 b.x2, ← s.vertical.map_isSome_iff b.y1 b.y2,
    window?]
  cases s.horizontal.map b.x1 b.x2 <;> cases s.vertical.map b.y1 b.y2 <;> simp

theorem frames_of_window? {b : PixelBox} {w : ExposureWindow} (h : s.window? b = some w) :
    s.Frames b w := by
  unfold window? at h
  split at h
  case h_1 across down =>
    cases h
    exact ⟨s.horizontal.spans_of_map across, s.vertical.spans_of_map down⟩
  case h_2 => cases h

theorem weight_of_window? {b : PixelBox} {w : ExposureWindow} (h : s.window? b = some w) :
    w.weight = 0 := by
  unfold window? at h
  split at h
  case h_1 =>
    cases h
    rfl
  case h_2 => cases h

theorem window?_forall₂ (boxes : List PixelBox) :
    List.Forall₂ (fun b w ↦ s.window? b = some w) (boxes.filter s.OnSensor)
      (boxes.filterMap s.window?) := by
  induction boxes with
  | nil => exact .nil
  | cons b boxes ih =>
    have inside := s.window?_isSome_iff (b := b)
    cases h : s.window? b with
    | none =>
      rw [h, Option.isSome_none, Bool.false_eq_true, false_iff] at inside
      rw [List.filter_cons_of_neg (by simpa using inside), List.filterMap_cons_none h]
      exact ih
    | some w =>
      rw [h, Option.isSome_some, eq_self, true_iff] at inside
      rw [List.filter_cons_of_pos (by simpa using inside), List.filterMap_cons_some h]
      exact .cons h ih

/-- The windows are those of the first boxes that begin on the sensor, apart from their weights. -/
theorem windows_forall₂ (boxes : List PixelBox) :
    List.Forall₂ (fun b w ↦ s.window? b = some { w with weight := 0 })
      ((boxes.take maxWindows).filter s.OnSensor) (s.windows boxes) := by
  rw [windows, weighted, List.forall₂_map_right_iff]
  refine (s.window?_forall₂ _).imp fun b w h ↦ ?_
  have unweighted := s.weight_of_window? h
  obtain ⟨left, top, width, height, weight⟩ := w
  obtain rfl : weight = 0 := unweighted
  exact h

theorem windows_frame (boxes : List PixelBox) :
    List.Forall₂ s.Frames ((boxes.take maxWindows).filter s.OnSensor) (s.windows boxes) := by
  refine (s.windows_forall₂ boxes).imp fun b w h ↦ ?_
  have unweighted := s.frames_of_window? h
  exact ⟨unweighted.across, unweighted.down⟩

theorem dropped_eq (boxes : List PixelBox) :
    s.dropped boxes = (boxes.take maxWindows).filter fun b ↦ ¬ s.OnSensor b := by
  refine List.filter_congr fun b _ ↦ ?_
  simp only [← s.window?_isSome_iff]
  cases s.window? b <;> rfl

def droppedLine (b : PixelBox) : Line := ⟨.debug, s!"人脸框 {b.text} 映射后超出传感器范围, 丢弃"⟩

theorem run_build {ε : Type} (boxes : List PixelBox) (log : Log) :
    (s.build boxes : Logging ε (List ExposureWindow)).run.run log =
      (.ok (s.windows boxes), log ++ ((s.dropped boxes).map droppedLine).toArray) :=
  run_bind_ok (run_forIn_write .debug _ (s.dropped boxes) log)

/-- Building never fails: each of the first eight boxes that begins on the sensor gives a window that
stays there, in the order of the boxes, and each of the others of them is dropped with a line. -/
theorem build_windows {ε : Type} (boxes : List PixelBox) (log : Log) :
    ∃ windows,
      (s.build boxes : Logging ε (List ExposureWindow)).run.run log = (.ok windows,
        log ++ (((boxes.take 8).filter fun b ↦ ¬ s.OnSensor b).map droppedLine).toArray) ∧
      List.Forall₂ s.Frames ((boxes.take 8).filter s.OnSensor) windows := by
  refine ⟨s.windows boxes, ?_, s.windows_frame boxes⟩
  rw [run_build, dropped_eq]
  rfl

end ExposureSettings

end FaceDecode
