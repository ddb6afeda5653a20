import FaceDecode.Decimal.Read
import FaceDecode.Decimal.Text
import FaceDecode.Detection.Pipeline
import FaceDecode.Exposure
import FaceDecode.Locator.Basic

namespace FaceDecode

inductive Setting where
  | scoreThreshold
  | overlapThreshold
  | inputWidth
  | inputHeight
  | sensorWidth
  | sensorHeight
  | offsetAcross
  | offsetDown
  | exposure
deriving DecidableEq, Repr

namespace Setting

def all : List Setting :=
  [scoreThreshold, overlapThreshold, inputWidth, inputHeight, sensorWidth, sensorHeight,
    offsetAcross, offsetDown, exposure]

def key : Setting → String
  | scoreThreshold => "obj_threshold"
  | overlapThreshold => "nms_threshold"
  | inputWidth => "input_width"
  | inputHeight => "input_height"
  | sensorWidth => "sensor_width"
  | sensorHeight => "sensor_height"
  | offsetAcross => "offset_h"
  | offsetDown => "offset_v"
  | exposure => "ae_roi"

def ofKey? (key : String) : Option Setting := all.find? fun s ↦ s.key == key

end Setting

inductive SettingsError where
  | otherScheme (scheme : String)
  | badValue (setting : Setting) (value : String)
  | outsideUnit (setting : Setting) (value : Float32)
  | zero (setting : Setting)

def detectorScheme : String := "retinaface"

def SettingsError.message : SettingsError → String
  | .otherScheme scheme => s!"URI 方案不匹配: 期望模型方案 '{detectorScheme}', 实际方案 '{scheme}'"
  | .badValue setting value => s!"配置无效: 参数 {setting.key} 的值无效: {value}"
  | .outsideUnit setting value =>
    s!"配置无效: {setting.key} 必须在 [0, 1] 范围内, 实际为 {Number.text value}"
  | .zero setting => s!"配置无效: {setting.key} 不能为 0"

structure DetectorDraft where
  detect : DetectSettings := {}
  exposure : ExposureSettings := {}

namespace DetectorDraft

def switch? : String → Option Bool
  | "1" | "true" => some true
  | "0" | "false" => some false
  | _ => none

/-- The draft with one setting replaced, if the text is a value for it. -/
def set? (d : DetectorDraft) (setting : Setting) (value : String) : Option DetectorDraft :=
  match setting with
  | .scoreThreshold => do
    return { d with detect := { d.detect with scoreThreshold := ← Read.single? value } }
  | .overlapThreshold => do
    return { d with detect := { d.detect with overlapThreshold := ← Read.single? value } }
  | .inputWidth => do return { d with detect := { d.detect with width := ← Read.word? value } }
  | .inputHeight => do return { d with detect := { d.detect with height := ← Read.word? value } }
  | .sensorWidth => do
    return { d with exposure.horizontal := {
      d.exposure.horizontal with sensor := ← Read.word? value } }
  | .sensorHeight => do
    return { d with exposure.vertical := {
      d.exposure.vertical with sensor := ← Read.word? value } }
  | .offsetAcross => do
    return { d with exposure.horizontal := {
      d.exposure.horizontal with offset := ← Read.word? value } }
  | .offsetDown => do
    return { d with exposure.vertical := {
      d.exposure.vertical with offset := ← Read.word? value } }
  | .exposure => do
    return { d with exposure := { d.exposure with enabled := ← switch? value } }

def take (d : DetectorDraft) (pair : String × String) : Logging SettingsError DetectorDraft :=
  match Setting.ofKey? pair.1 with
  | none => do
    Logging.write .warn s!"忽略未知的模型参数: {pair.1}={pair.2}"
    return d
  | some setting =>
    match d.set? setting pair.2 with
    | some d => return d
    | none => throw (.badValue setting pair.2)

def ofPairs (pairs : List (String × String)) : Logging SettingsError DetectorDraft :=
  pairs.foldlM take {}

def ofLocator (l : Locator) : Logging SettingsError DetectorDraft :=
  if l.scheme = detectorScheme then ofPairs l.pairs else throw (.otherScheme l.scheme)

inductive Change where
  | scoreThreshold (threshold : Float32)
  | overlapThreshold (threshold : Float32)
  | inputSize (width height : UInt32)
  | sensorSize (width height : UInt32)
  | sensorOffset (across down : UInt32)
  | exposure (enabled : Bool)

def change (d : DetectorDraft) : Change → DetectorDraft
  | .scoreThreshold threshold => { d with detect := { d.detect with scoreThreshold := threshold } }
  | .overlapThreshold threshold =>
    { d with detect := { d.detect with overlapThreshold := threshold } }
  | .inputSize width height => { d with detect := { d.detect with width, height } }
  | .sensorSize width height =>
    { d with exposure := { d.exposure with
        horizontal := { d.exposure.horizontal with sensor := width }
        vertical := { d.exposure.vertical with sensor := height } } }
  | .sensorOffset across down =>
    { d with exposure := { d.exposure with
        horizontal := { d.exposure.horizontal with offset := across }
        vertical := { d.exposure.vertical with offset := down } } }
  | .exposure enabled => { d with exposure := { d.exposure with enabled } }

def inUnit (threshold : Float32) : Bool := 0 ≤ threshold && threshold ≤ 1

def thresholds (d : DetectorDraft) : List (Setting × Float32) :=
  [(.scoreThreshold, d.detect.scoreThreshold), (.overlapThreshold, d.detect.overlapThreshold)]

def sizes (d : DetectorDraft) : List (Setting × UInt32) :=
  [(.inputWidth, d.detect.width), (.inputHeight, d.detect.height),
    (.sensorWidth, d.exposure.horizontal.sensor), (.sensorHeight, d.exposure.vertical.sensor)]

/-- The first fault: a threshold outside the unit interval, then a size of zero. -/
def fault? (d : DetectorDraft) : Option SettingsError :=
  match d.thresholds.find? fun (_, threshold) ↦ !inUnit threshold with
  | some (setting, threshold) => some (.outsideUnit setting threshold)
  | none =>
    (d.sizes.find? fun (_, size) ↦ size == 0).map fun (setting, _) ↦ .zero setting

end DetectorDraft

end FaceDecode
