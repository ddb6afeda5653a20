import FaceDecode.Geometry.CenterBox

namespace FaceDecode

structure PixelBox where
  x1 : Int32
  y1 : Int32
  x2 : Int32
  y2 : Int32
deriving DecidableEq, Repr

namespace PixelBox

def width (b : PixelBox) : Int32 := b.x2 - b.x1

def height (b : PixelBox) : Int32 := b.y2 - b.y1

def text (b : PixelBox) : String :=
  "FaceCoordinate \x7b " ++
    s!"x1: {b.x1.toInt}, y1: {b.y1.toInt}, x2: {b.x2.toInt}, y2: {b.y2.toInt}" ++ " \x7d"

end PixelBox

/-- The difference, held at the ends of the range. -/
def differenceHeld (a b : Int32) : Int32 := .ofIntClamp (a.toInt - b.toInt)

/-- A length as a signed number, held at the upper end of the range. -/
def signedHeld (n : UInt32) : Int32 := .ofIntClamp n.toNat

/-- A picture of the given size inside the square that the network sees. -/
structure Letterbox where
  width : Int32
  height : Int32
deriving DecidableEq, Repr

namespace Letterbox

def ofSize (width height : UInt32) : Letterbox := ⟨signedHeld width, signedHeld height⟩

def longSide (l : Letterbox) : Int32 := max l.width l.height

def shortSide (l : Letterbox) : Int32 := min l.width l.height

def pad (l : Letterbox) : Int32 := (l.longSide - l.shortSide) / 2

/-- Whether the margins lie left and right. -/
def padsWidth (l : Letterbox) : Bool := l.longSide == l.height

def padX (l : Letterbox) : Int32 := if l.padsWidth then l.pad else 0

def padY (l : Letterbox) : Int32 := if l.padsWidth then 0 else l.pad

def scale (l : Letterbox) : Float32 := l.longSide.toNatClampNeg.toUInt32.toFloat32

def lowEnd (size pad : Int32) (v : Float32) : Int32 :=
  min (max (differenceHeld (Number.truncate v) pad) 1) size

/-- The upper end of a box that starts at `low`. -/
def highEnd (size pad low : Int32) (v : Float32) : Int32 :=
  max (min (differenceHeld (Number.truncate v) pad) size) low

def mapBox (l : Letterbox) (b : CenterBox) : PixelBox :=
  let halfW := b.w * l.scale / 2
  let halfH := b.h * l.scale / 2
  let x1 := lowEnd l.width l.padX (b.cx * l.scale - halfW)
  let y1 := lowEnd l.height l.padY (b.cy * l.scale - halfH)
  { x1, y1
    x2 := highEnd l.width l.padX x1 (b.cx * l.scale + halfW)
    y2 := highEnd l.height l.padY y1 (b.cy * l.scale + halfH) }

/-- The pixel of a point, which may lie outside the picture. -/
def mapPoint (l : Letterbox) (p : Point Float32) : Point Int32 where
  x := differenceHeld (Number.truncate (p.x * l.scale)) l.padX
  y := differenceHeld (Number.truncate (p.y * l.scale)) l.padY

def mapLandmarks (l : Letterbox) (points : Landmarks Float32) : Landmarks Int32 :=
  points.map l.mapPoint

end Letterbox

end FaceDecode
