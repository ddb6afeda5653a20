import FaceDecode.Geometry.PixelBox

namespace FaceDecode

structure Face where
  score : Float32
  box : PixelBox
  landmarks : Landmarks Int32 := .replicate 5 ⟨0, 0⟩

structure ExposureWindow where
  left : UInt32
  top : UInt32
  width : UInt32
  height : UInt32
  weight : Float32

structure Report where
  faces : List Face := []
  exposure : Option (List ExposureWindow) := none

def Report.boxes (r : Report) : List PixelBox := r.faces.map (·.box)

end FaceDecode
