import FaceDecode.Overlay
import FaceDecode.Proofs.Exposure.Windows
import FaceDecode.Proofs.Geometry.Letterbox

namespace FaceDecode

def Point.transpose {α : Type} (p : Point α) : Point α := ⟨p.y, p.x⟩

def CenterBox.transpose (b : CenterBox) : CenterBox := ⟨b.cy, b.cx, b.h, b.w⟩

def PixelBox.transpose (b : PixelBox) : PixelBox := ⟨b.y1, b.x1, b.y2, b.x2⟩

namespace Letterbox

def transpose (l : Letterbox) : Letterbox := ⟨l.height, l.width⟩

variable (l : Letterbox)

theorem longSide_transpose : l.transpose.longSide = l.longSide := by
  rw [← Int32.toInt_inj, longSide, longSide, toInt_max, toInt_max]
  exact Int.max_comm _ _

theorem shortSide_transpose : l.transpose.shortSide = l.shortSide := by
  rw [← Int32.toInt_inj, shortSide, shortSide, toInt_min, toInt_min]
  exact Int.min_comm _ _

theorem pad_transpose : l.transpose.pad = l.pad := by
  rw [pad, pad, longSide_transpose, shortSide_transpose]

theorem scale_transpose : l.transpose.scale = l.scale := by
  rw [scale, scale, longSide_transpose]

theorem padX_transpose : l.transpose.padX = l.padY := by
  rw [padX, padY, pad_transpose, padsWidth, padsWidth, longSide_transpose]
  change (if (l.longSide == l.width) = true then _ else _) = _
  by_cases wide : l.longSide = l.width
  · by_cases high : l.longSide = l.height
    · have square : l.pad = 0 := by
        have short : l.shortSide = l.longSide := by
          rw [← Int32.toInt_inj, shortSide, toInt_min, ← wide, ← high, Int.min_self]
        rw [pad, short, Int32.sub_self, Int32.zero_div]
      simp [wide, ← high, square]
    · simp [wide, wide ▸ high]
  · have high : l.longSide = l.height := by
      have cases : l.longSide.toInt = max l.width.toInt l.height.toInt := toInt_max _ _
      rw [← Int32.toInt_inj] at wide ⊢
      omega
    simp [high, high ▸ wide]

theorem padY_transpose : l.transpose.padY = l.padX := (l.transpose.padX_transpose).symm

theorem mapBox_transpose (b : CenterBox) :
    l.transpose.mapBox b.transpose = (l.mapBox b).transpose := by
  simp only [mapBox, padX_transpose, padY_transpose, scale_transpose]
  rfl

theorem mapPoint_transpose (p : Point Float32) :
    l.transpose.mapPoint p.transpose = (l.mapPoint p).transpose := by
  simp only [mapPoint, padX_transpose, padY_transpose, scale_transpose]
  rfl

theorem mapLandmarks_transpose (points : Landmarks Float32) :
    l.transpose.mapLandmarks (points.map Point.transpose) =
      (l.mapLandmarks points).map Point.transpose := by
  rw [mapLandmarks, mapLandmarks, Vector.map_map, Vector.map_map]
  exact congrArg (Vector.map · points) (funext l.mapPoint_transpose)

end Letterbox

def ExposureWindow.transpose (w : ExposureWindow) : ExposureWindow where
  left := w.top
  top := w.left
  width := w.height
  height := w.width
  weight := w.weight

theorem ExposureWindow.area_transpose (w : ExposureWindow) : w.transpose.area = w.area :=
  UInt64.mul_comm _ _

namespace ExposureSettings

def transpose (s : ExposureSettings) : ExposureSettings where
  horizontal := s.vertical
  vertical := s.horizontal
  enabled := s.enabled

variable (s : ExposureSettings)

theorem window?_transpose (b : PixelBox) :
    s.transpose.window? b.transpose = (s.window? b).map ExposureWindow.transpose := by
  simp only [window?, transpose, PixelBox.transpose]
  cases s.horizontal.map b.x1 b.x2 <;> cases s.vertical.map b.y1 b.y2 <;> rfl

theorem weighted_transpose (windows : List ExposureWindow) :
    weighted (windows.map ExposureWindow.transpose) =
      (weighted windows).map ExposureWindow.transpose := by
  have areas : (windows.map ExposureWindow.transpose).map ExposureWindow.area =
      windows.map ExposureWindow.area := by
    rw [List.map_map]
    exact congrArg (List.map · windows) (funext ExposureWindow.area_transpose)
  simp only [weighted, areas, List.length_map, List.map_map]
  refine List.map_congr_left fun w _ ↦ ?_
  simp only [Function.comp_apply, weight, ExposureWindow.area_transpose]
  rfl

theorem windows_transpose (boxes : List PixelBox) :
    s.transpose.windows (boxes.map PixelBox.transpose) =
      (s.windows boxes).map ExposureWindow.transpose := by
  rw [windows, windows, ← weighted_transpose, ← List.map_take, List.filterMap_map,
    List.map_filterMap]
  exact congrArg (fun f ↦ weighted (List.filterMap f _)) (funext s.window?_transpose)

theorem dropped_transpose (boxes : List PixelBox) :
    s.transpose.dropped (boxes.map PixelBox.transpose) =
      (s.dropped boxes).map PixelBox.transpose := by
  rw [dropped, dropped, ← List.map_take, List.filter_map]
  refine congrArg _ (List.filter_congr fun b _ ↦ ?_)
  rw [Function.comp_apply, window?_transpose, Option.isNone_map]

end ExposureSettings

def Size.transpose (s : Size) : Size := ⟨s.height, s.width⟩

def DisplayArea.transpose (a : DisplayArea) : DisplayArea := ⟨a.top, a.left, a.bottom, a.right⟩

def MarkerCommand.transpose : MarkerCommand → MarkerCommand
  | .draw marker area => .draw marker area.transpose
  | .clear marker => .clear marker

namespace Overlay

def transpose (o : Overlay) : Overlay where
  model := o.model.transpose
  display := o.display.transpose
  shown := o.shown

theorem clears_transpose (first last : Nat) :
    (clears first last).map MarkerCommand.transpose = clears first last := by
  rw [clears, List.map_map]
  rfl

theorem update_transpose (o : Overlay) (boxes : List PixelBox) :
    o.transpose.update (boxes.map PixelBox.transpose) =
      ((o.update boxes).1.map MarkerCommand.transpose, (o.update boxes).2.transpose) := by
  have draws : (boxes.map PixelBox.transpose).mapIdx
        (fun i b ↦ MarkerCommand.draw (marker i) (o.transpose.area b)) =
      (boxes.mapIdx fun i b ↦ MarkerCommand.draw (marker i) (o.area b)).map
        MarkerCommand.transpose := by
    apply List.ext_getElem?
    intro i
    simp only [List.getElem?_mapIdx, List.getElem?_map, Option.map_map]
    rfl
  simp only [update, List.length_map, List.map_append, clears_transpose, draws]
  rfl

end Overlay

/-- From the boxes and points that the network gives to pixels, to exposure windows and to the marks
on a display, nothing depends on which axis is which. -/
theorem chain_transpose {ε : Type} (width height : UInt32) (s : ExposureSettings) (o : Overlay)
    (boxes : List CenterBox) (points : List (Landmarks Float32)) (log : Log) :
    let pixels := boxes.map (Letterbox.ofSize width height).mapBox
    let exchanged := (boxes.map CenterBox.transpose).map (Letterbox.ofSize height width).mapBox
    exchanged = pixels.map PixelBox.transpose ∧
    (points.map (·.map Point.transpose)).map (Letterbox.ofSize height width).mapLandmarks =
      (points.map (Letterbox.ofSize width height).mapLandmarks).map (·.map Point.transpose) ∧
    (∃ windows, ∃ dropped : List PixelBox,
      (s.build pixels : Logging ε _).run.run log =
        (.ok windows, log ++ (dropped.map ExposureSettings.droppedLine).toArray) ∧
      (s.transpose.build exchanged : Logging ε _).run.run log =
        (.ok (windows.map ExposureWindow.transpose),
          log ++ ((dropped.map PixelBox.transpose).map ExposureSettings.droppedLine).toArray)) ∧
    o.transpose.update exchanged =
      ((o.update pixels).1.map MarkerCommand.transpose, (o.update pixels).2.transpose) := by
  intro pixels exchanged
  have mapped : exchanged = pixels.map PixelBox.transpose := by
    simp only [exchanged, pixels, List.map_map]
    exact congrArg (List.map · boxes)
      (funext (Letterbox.ofSize width height).mapBox_transpose)
  refine ⟨mapped, ?_, ?_, ?_⟩
  · simp only [List.map_map]
    exact congrArg (List.map · points)
      (funext (Letterbox.ofSize width height).mapLandmarks_transpose)
  · refine ⟨_, _, s.run_build pixels log, (s.transpose.run_build exchanged log).trans ?_⟩
    rw [mapped, s.windows_transpose, s.dropped_transpose]
  · rw [mapped, o.update_transpose]

end FaceDecode
