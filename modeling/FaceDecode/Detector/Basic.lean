import FaceDecode.Detector.Settings

namespace FaceDecode

structure Detector where
  draft : DetectorDraft
  fault_eq_none : draft.fault? = none

inductive InferError where
  | gridMismatch (scale expected actual : Nat)
  | outOfRange (place : OutOfRange)
deriving DecidableEq, Repr

def InferError.message : InferError → String
  | .gridMismatch scale expected actual =>
    s!"张量形状与锚框表不匹配: 尺度 {scale} 期望 {expected} 个网格, 实际 {actual}"
  | .outOfRange place =>
    s!"index out of bounds: the len is {place.size} but the index is {place.index}"

namespace Detector

def detect (d : Detector) : DetectSettings := d.draft.detect

/-- The exposure settings, with the size of the picture that the detector works on. -/
def exposure (d : Detector) : ExposureSettings where
  horizontal := { d.draft.exposure.horizontal with model := d.detect.width }
  vertical := { d.draft.exposure.vertical with model := d.detect.height }
  enabled := d.draft.exposure.enabled

def summary (d : DetectorDraft) : String :=
  s!"RetinaFace 配置: obj_threshold={Number.text d.detect.scoreThreshold}, " ++
  s!"nms_threshold={Number.text d.detect.overlapThreshold}, " ++
  s!"输入 {d.detect.width}x{d.detect.height}, " ++
  s!"传感器 {d.exposure.horizontal.sensor}x{d.exposure.vertical.sensor}, " ++
  "AE ROI " ++ (if d.exposure.enabled then "开启" else "关闭")

def build (draft : DetectorDraft) : Logging SettingsError Detector :=
  match h : draft.fault? with
  | some fault => throw fault
  | none => do
    Logging.write .info (summary draft)
    return ⟨draft, h⟩

/-- The first scale whose cells are not those of the anchors. -/
def mismatch? (f : Frame) : Option (Fin scaleCount) :=
  (List.finRange scaleCount).find? fun scale ↦ AnchorTable.input.cells.get scale != f.cells.get scale

def infer (d : Detector) (f : Frame) : Logging InferError Report :=
  match mismatch? f with
  | some scale => throw (.gridMismatch scale (AnchorTable.input.cells.get scale) (f.cells.get scale))
  | none => do
    let faces ← Attempt.ofExcept
      ((Detection.detect f AnchorTable.input d.detect).mapError .outOfRange)
    if d.exposure.enabled then
      let windows ← d.exposure.build (faces.map (·.box))
      return { faces, exposure := some windows }
    else return { faces }

end Detector

end FaceDecode
