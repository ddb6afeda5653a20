import FaceDecode.Log
import FaceDecode.Number.Convert
import FaceDecode.Report.Basic

namespace FaceDecode

def maxWindows : Nat := 8

/-- One axis: the length of the picture, that of the sensor, and a shift on the sensor. -/
structure ExposureAxis where
  model : UInt32
  sensor : UInt32
  offset : UInt32 := 0
deriving DecidableEq, Repr

structure ExposureSettings where
  horizontal : ExposureAxis := { model := 1280, sensor := 1920 }
  vertical : ExposureAxis := { model := 720, sensor := 1080 }
  enabled : Bool := true
deriving DecidableEq, Repr

def word? (n : Nat) : Option UInt32 := if n < UInt32.size then some (.ofNat n) else none

/-- A pixel as a length; what lies before the edge counts as the edge. -/
def pixelLength (x : Int32) : Nat := x.toNatClampNeg

namespace ExposureAxis

def scaled (a : ExposureAxis) (length : Nat) : Nat :=
  length * a.sensor.toNat / max a.model.toNat 1

def begins (a : ExposureAxis) (start : Int32) : Nat :=
  a.scaled (pixelLength start) + a.offset.toNat

/-- The first place and the length of a stretch on the sensor, cut off at its end; nothing if the
first place lies behind the end. -/
def map (a : ExposureAxis) (start stop : Int32) : Option (UInt32 × UInt32) :=
  let first := a.begins start
  if a.sensor.toNat ≤ first then none
  else
    let length := min (a.scaled (pixelLength stop - pixelLength start)) (a.sensor.toNat - first)
    (word? first).bind fun first ↦ (word? length).map fun length ↦ (first, length)

end ExposureAxis

def ExposureWindow.area (w : ExposureWindow) : UInt64 := w.width.toUInt64 * w.height.toUInt64

namespace ExposureSettings

def window? (s : ExposureSettings) (b : PixelBox) : Option ExposureWindow :=
  match s.horizontal.map b.x1 b.x2, s.vertical.map b.y1 b.y2 with
  | some (left, width), some (top, height) => some { left, top, width, height, weight := 0 }
  | _, _ => none

def weight (total : UInt64) (count : Nat) (w : ExposureWindow) : Float32 :=
  if total = 0 then 1 / count.toUInt64.toFloat32
  else Number.narrow (w.area.toFloat / total.toFloat)

def weighted (windows : List ExposureWindow) : List ExposureWindow :=
  let total := (windows.map ExposureWindow.area).foldl (· + ·) 0
  windows.map fun w ↦ { w with weight := weight total windows.length w }

def windows (s : ExposureSettings) (boxes : List PixelBox) : List ExposureWindow :=
  weighted ((boxes.take maxWindows).filterMap s.window?)

def dropped (s : ExposureSettings) (boxes : List PixelBox) : List PixelBox :=
  (boxes.take maxWindows).filter fun b ↦ (s.window? b).isNone

/-- The windows, with a line for each box that is dropped. -/
def build {ε : Type} (s : ExposureSettings) (boxes : List PixelBox) :
    Logging ε (List ExposureWindow) := do
  for b in s.dropped boxes do
    Logging.write .debug s!"人脸框 {b.text} 映射后超出传感器范围, 丢弃"
  return s.windows boxes

end ExposureSettings

def totalWeight (windows : List ExposureWindow) : Float32 :=
  (windows.map (·.weight)).foldl (· + ·) (-0.0)

end FaceDecode
