import FaceDecode.Proofs.Exposure.Windows
import FaceDecode.Proofs.Steps

namespace FaceDecode

structure Overflow where
  value : Int
deriving DecidableEq, Repr

def long (n : Int) : Except Overflow UInt64 :=
  if 0 ≤ n ∧ n < UInt64.size then .ok (.ofNat n.toNat) else .error ⟨n⟩

theorem long_eq_ok {n : Int} {w : UInt64} : long n = .ok w ↔ (w.toNat : Int) = n := by
  have bound := w.toNat_lt_size
  unfold long
  split
  case isTrue fits =>
    have short : n.toNat < UInt64.size := by omega
    rw [Except.ok.injEq, ← UInt64.toNat_inj, UInt64.toNat_ofNat_of_lt' short]
    omega
  case isFalse fits =>
    refine iff_of_false (by simp) ?_
    rintro rfl
    omega

theorem exists_long {n : Int} (nonneg : 0 ≤ n) (short : n < UInt64.size) :
    ∃ w, long n = .ok w ∧ (w.toNat : Int) = n :=
  ⟨.ofNat n.toNat, if_pos ⟨nonneg, short⟩, long_eq_ok.1 (if_pos ⟨nonneg, short⟩)⟩

theorem pixelLength_lt (x : Int32) : pixelLength x < 0x80000000 := by
  have bound : x.toInt < 0x80000000 := x.toInt_lt
  rw [pixelLength, Int32.toNatClampNeg]
  omega

namespace ExposureAxis

variable (a : ExposureAxis)

def scaledChecked (length : Nat) : Except Overflow UInt64 := do
  return (← long (length * a.sensor.toNat : Nat)) / (max a.model 1).toUInt64

/-- The mapping of an axis where each product, sum and difference has to fit a word. -/
def mapChecked (start stop : Int32) : Except Overflow (Option (UInt32 × UInt32)) := do
  let first ← long ((← a.scaledChecked (pixelLength start)).toNat + a.offset.toNat)
  if a.sensor.toNat ≤ first.toNat then return none
  let length ← a.scaledChecked (pixelLength stop - pixelLength start)
  let room ← long (a.sensor.toNat - first.toNat)
  return (word? first.toNat).bind fun first ↦
    (word? (min length room).toNat).map fun length ↦ (first, length)

theorem exists_scaledChecked {length : Nat} (short : length < 0x80000000) :
    ∃ w, a.scaledChecked length = .ok w ∧ w.toNat = a.scaled length ∧ w.toNat < 0x8000000000000000 := by
  have small : length * a.sensor.toNat < 0x80000000 * UInt32.size :=
    Nat.mul_lt_mul'' short a.sensor.toNat_lt_size
  have sizes : 0x80000000 * UInt32.size < UInt64.size := by decide
  obtain ⟨product, found, product_eq⟩ :=
    exists_long (Int.natCast_nonneg (length * a.sensor.toNat)) (by omega)
  rw [Int.natCast_inj] at product_eq
  have quotient_eq : (product / (max a.model 1).toUInt64).toNat = a.scaled length := by
    rw [UInt64.toNat_div, product_eq, UInt32.toNat_toUInt64, UInt32.toNat_max]
    rfl
  refine ⟨product / (max a.model 1).toUInt64, bind_eq_ok.2 ⟨product, found, rfl⟩, quotient_eq, ?_⟩
  rw [quotient_eq]
  exact Nat.lt_of_le_of_lt (Nat.div_le_self _ _) small

theorem mapChecked_eq (start stop : Int32) : a.mapChecked start stop = .ok (a.map start stop) := by
  have sensor := a.sensor.toNat_lt_size
  have offset := a.offset.toNat_lt_size
  have sizes : 0x8000000000000000 + UInt32.size < UInt64.size := by decide
  have shorter : pixelLength stop - pixelLength start < 0x80000000 :=
    Nat.lt_of_le_of_lt (Nat.sub_le _ _) (pixelLength_lt stop)
  obtain ⟨scaled, begun, scaled_eq, scaled_lt⟩ := a.exists_scaledChecked (pixelLength_lt start)
  obtain ⟨first, moved, first_eq⟩ :=
    exists_long (n := scaled.toNat + a.offset.toNat) (by omega) (by omega)
  have begins : first.toNat = a.begins start := by
    rw [ExposureAxis.begins, ← scaled_eq]
    omega
  refine bind_eq_ok.2 ⟨scaled, begun, bind_eq_ok.2 ⟨first, moved, ?_⟩⟩
  rw [map, ← begins]
  by_cases outside : a.sensor.toNat ≤ first.toNat
  · rw [if_pos outside, if_pos outside]
    rfl
  · obtain ⟨length, ended, length_eq, -⟩ := a.exists_scaledChecked shorter
    obtain ⟨room, left, room_eq⟩ :=
      exists_long (n := a.sensor.toNat - first.toNat) (by omega) (by omega)
    have least : (min length room).toNat =
        min (a.scaled (pixelLength stop - pixelLength start)) (a.sensor.toNat - first.toNat) := by
      rw [UInt64.toNat_min, length_eq]
      omega
    rw [if_neg outside, if_neg outside, ← least]
    exact bind_eq_ok.2 ⟨length, ended, bind_eq_ok.2 ⟨room, left, rfl⟩⟩

end ExposureAxis

namespace ExposureWindow

def extent (w : ExposureWindow) : Nat := w.width.toNat * w.height.toNat

theorem extent_lt (w : ExposureWindow) : w.extent < UInt64.size := by
  have area : w.extent < UInt32.size * UInt32.size :=
    Nat.mul_lt_mul'' w.width.toNat_lt_size w.height.toNat_lt_size
  exact Nat.lt_of_lt_of_le area (by decide)

theorem toNat_area (w : ExposureWindow) : w.area.toNat = w.extent := by
  rw [area, UInt64.toNat_mul, UInt32.toNat_toUInt64, UInt32.toNat_toUInt64]
  exact Nat.mod_eq_of_lt w.extent_lt

theorem long_extent (w : ExposureWindow) : long w.extent = .ok w.area :=
  long_eq_ok.2 (congrArg _ w.toNat_area)

end ExposureWindow

namespace ExposureSettings

/-- The area of all windows together, where numbers are exact. -/
def covered : List ExposureWindow → Nat
  | [] => 0
  | w :: windows => w.extent + covered windows

theorem covered_map {f : ExposureWindow → ExposureWindow} (h : ∀ w, (f w).extent = w.extent)
    (windows : List ExposureWindow) : covered (windows.map f) = covered windows := by
  induction windows with
  | nil => rfl
  | cons w windows ih => rw [List.map_cons, covered, covered, h, ih]

theorem covered_weighted (windows : List ExposureWindow) :
    covered (weighted windows) = covered windows := by
  rw [weighted]
  apply covered_map
  intro w
  rfl

theorem covered_le_of_extent_le {windows : List ExposureWindow} {n : Nat}
    (h : ∀ w ∈ windows, w.extent ≤ n) : covered windows ≤ windows.length * n := by
  induction windows with
  | nil => exact Nat.zero_le _
  | cons w windows ih =>
    have first := h w List.mem_cons_self
    have others := ih fun w' hw' ↦ h w' (List.mem_cons_of_mem w hw')
    rw [covered, List.length_cons, Nat.add_mul, Nat.one_mul]
    omega

def addArea (total : UInt64) (w : ExposureWindow) : Except Overflow UInt64 := do
  long (total.toNat + (← long w.extent).toNat)

theorem addArea_eq_ok {total next : UInt64} {w : ExposureWindow} :
    addArea total w = .ok next ↔ next.toNat = total.toNat + w.extent := by
  simp only [addArea, bind_eq_ok, w.long_extent, Except.ok.injEq, exists_eq_left', long_eq_ok,
    w.toNat_area]
  omega

/-- Areas can be added in words just where their sum fits one. -/
theorem foldlM_addArea_eq_ok {windows : List ExposureWindow} {start total : UInt64} :
    windows.foldlM addArea start = .ok total ↔ total.toNat = start.toNat + covered windows := by
  induction windows generalizing start with
  | nil =>
    rw [List.foldlM_nil]
    show Except.ok start = _ ↔ total.toNat = start.toNat
    rw [Except.ok.injEq, UInt64.toNat_inj, eq_comm]
  | cons w windows ih =>
    rw [List.foldlM_cons, bind_eq_ok, covered]
    simp only [addArea_eq_ok, ih]
    constructor
    · rintro ⟨next, next_eq, total_eq⟩
      omega
    · intro total_eq
      have bound := total.toNat_lt_size
      have fits : start.toNat + w.extent < UInt64.size := by omega
      refine ⟨.ofNat (start.toNat + w.extent), UInt64.toNat_ofNat_of_lt' fits, ?_⟩
      rw [UInt64.toNat_ofNat_of_lt' fits]
      omega

/-- Without checks the sum is what is left of the areas in a word. -/
theorem foldl_area (windows : List ExposureWindow) (start : UInt64) :
    (windows.map ExposureWindow.area).foldl (· + ·) start = start + .ofNat (covered windows) := by
  induction windows generalizing start with
  | nil => exact (UInt64.add_zero start).symm
  | cons w windows ih =>
    have area : w.area = .ofNat w.extent := by rw [← w.toNat_area, UInt64.ofNat_toNat]
    rw [List.map_cons, List.foldl_cons, ih, covered, UInt64.ofNat_add, ← area, UInt64.add_assoc]

def weightedChecked (windows : List ExposureWindow) : Except Overflow (List ExposureWindow) := do
  let total ← windows.foldlM addArea 0
  return windows.map fun w ↦ { w with weight := weight total windows.length w }

theorem weighted_eq (windows : List ExposureWindow) : weighted windows = windows.map fun w ↦
    { w with weight := weight (.ofNat (covered windows)) windows.length w } := by
  rw [weighted, foldl_area, UInt64.zero_add]

theorem weightedChecked_eq_ok {windows weighed : List ExposureWindow} :
    weightedChecked windows = .ok weighed ↔
      covered windows < UInt64.size ∧ weighed = weighted windows := by
  simp only [weightedChecked, bind_eq_ok, foldlM_addArea_eq_ok, UInt64.toNat_zero, Nat.zero_add]
  rw [weighted_eq]
  constructor
  · rintro ⟨total, total_eq, made⟩
    cases made
    have bound := total.toNat_lt_size
    rw [← total_eq, UInt64.ofNat_toNat]
    exact ⟨bound, rfl⟩
  · rintro ⟨fits, rfl⟩
    exact ⟨.ofNat (covered windows), UInt64.toNat_ofNat_of_lt' fits, rfl⟩

variable (s : ExposureSettings)

def windowChecked? (b : PixelBox) : Except Overflow (Option ExposureWindow) := do
  let across ← s.horizontal.mapChecked b.x1 b.x2
  let down ← s.vertical.mapChecked b.y1 b.y2
  match across, down with
  | some (left, width), some (top, height) => return some { left, top, width, height, weight := 0 }
  | _, _ => return none

def windowsChecked (boxes : List PixelBox) : Except Overflow (List ExposureWindow) := do
  let found ← (boxes.take maxWindows).mapM s.windowChecked?
  weightedChecked (found.filterMap id)

theorem windowChecked?_eq (b : PixelBox) : s.windowChecked? b = .ok (s.window? b) := by
  refine bind_eq_ok.2 ⟨_, s.horizontal.mapChecked_eq b.x1 b.x2,
    bind_eq_ok.2 ⟨_, s.vertical.mapChecked_eq b.y1 b.y2, ?_⟩⟩
  rw [window?]
  cases s.horizontal.map b.x1 b.x2 <;> cases s.vertical.map b.y1 b.y2 <;> rfl

theorem windowsChecked_eq_ok {boxes : List PixelBox} {windows : List ExposureWindow} :
    s.windowsChecked boxes = .ok windows ↔
      covered (s.windows boxes) < UInt64.size ∧ windows = s.windows boxes := by
  have found : (boxes.take maxWindows).mapM s.windowChecked? =
      .ok ((boxes.take maxWindows).map s.window?) := mapM_eq_pure fun b _ ↦ s.windowChecked?_eq b
  simp only [windowsChecked, bind_eq_ok, found, Except.ok.injEq, exists_eq_left',
    weightedChecked_eq_ok]
  rw [List.filterMap_map, Function.id_comp, ExposureSettings.windows, covered_weighted]

theorem extent_le_of_window? {b : PixelBox} {w : ExposureWindow} (h : s.window? b = some w) :
    w.extent ≤ s.horizontal.sensor.toNat * s.vertical.sensor.toNat := by
  have frames := s.frames_of_window? h
  have across := frames.across.end_le
  have down := frames.down.end_le
  exact Nat.mul_le_mul (by omega) (by omega)

theorem covered_le (boxes : List PixelBox) :
    covered (s.windows boxes) ≤
      maxWindows * (s.horizontal.sensor.toNat * s.vertical.sensor.toNat) := by
  have few : ((boxes.take maxWindows).filterMap s.window?).length ≤ maxWindows :=
    Nat.le_trans (List.length_filterMap_le _ _) (List.length_take_le _ _)
  rw [ExposureSettings.windows, covered_weighted]
  refine Nat.le_trans (covered_le_of_extent_le fun w hw ↦ ?_) (Nat.mul_le_mul_right _ few)
  obtain ⟨b, -, found⟩ := List.mem_filterMap.1 hw
  exact s.extent_le_of_window? found

/-- Mapping an axis and the area of one window never leave words of 64 bits. The area of all windows
together is at most eight times that of the sensor. They are added up without a loss just where it fits
a word, and the weights are shares of it; where it does not fit, they are shares of what is left. -/
theorem windows_in_words (boxes : List PixelBox) :
    (∀ start stop,
      s.horizontal.mapChecked start stop = .ok (s.horizontal.map start stop) ∧
      s.vertical.mapChecked start stop = .ok (s.vertical.map start stop)) ∧
    (∀ w : ExposureWindow, long (w.width.toNat * w.height.toNat : Nat) = .ok w.area) ∧
    (∀ windows, s.windowsChecked boxes = .ok windows ↔
      covered (s.windows boxes) < UInt64.size ∧ windows = s.windows boxes) ∧
    covered (s.windows boxes) ≤ 8 * (s.horizontal.sensor.toNat * s.vertical.sensor.toNat) ∧
    ∀ w ∈ s.windows boxes, w.weight =
      weight (.ofNat (covered (s.windows boxes) % UInt64.size)) (s.windows boxes).length w := by
  refine ⟨fun start stop ↦
    ⟨s.horizontal.mapChecked_eq start stop, s.vertical.mapChecked_eq start stop⟩,
    ExposureWindow.long_extent, fun windows ↦ s.windowsChecked_eq_ok, s.covered_le boxes, ?_⟩
  intro w hw
  rw [UInt64.ofNat_mod_size, windows, covered_weighted]
  rw [windows, weighted_eq] at hw
  obtain ⟨unweighed, -, rfl⟩ := List.mem_map.1 hw
  rw [weighted, List.length_map]
  rfl

/-- Two windows that are the largest sensor each: a half of the area has the weight of the whole. -/
theorem windows_overflow :
    ∃ (s : ExposureSettings) (boxes : List PixelBox),
      s = { horizontal := { model := 1280, sensor := 4294967295 },
            vertical := { model := 720, sensor := 4294967295 } } ∧
      boxes = .replicate 2 { x1 := 0, y1 := 0, x2 := 1280, y2 := 720 } ∧
      covered (s.windows boxes) = 36893488130239234050 ∧
      (∀ windows, s.windowsChecked boxes ≠ .ok windows) ∧
      (s.windows boxes).map ExposureWindow.weight = [1, 1] := by
  refine ⟨_, _, rfl, rfl, by decide +kernel, fun windows fits ↦ ?_, by decide +kernel⟩
  exact absurd ((windowsChecked_eq_ok _).1 fits).1 (by decide +kernel)

end ExposureSettings

end FaceDecode
