import FaceDecode.Report.Basic

namespace FaceDecode

structure Size where
  width : UInt32
  height : UInt32
deriving DecidableEq, Repr

structure DisplayArea where
  left : UInt32
  top : UInt32
  right : UInt32
  bottom : UInt32
deriving DecidableEq, Repr

inductive MarkerCommand where
  | draw (marker : UInt32) (area : DisplayArea)
  | clear (marker : UInt32)
deriving DecidableEq, Repr

def MarkerCommand.text : MarkerCommand → String
  | .draw marker a => s!"绘制标记 #{marker}: ({a.left}, {a.top}) - ({a.right}, {a.bottom})"
  | .clear marker => s!"清除标记 #{marker}"

/-- The size of the picture, that of the display, and how many markers are shown. The display starts
with one marker. -/
structure Overlay where
  model : Size := ⟨1280, 720⟩
  display : Size := ⟨1920, 1080⟩
  shown : Nat := 1
deriving DecidableEq, Repr

namespace Overlay

/-- A pixel on the display, held at the ends of the range. -/
def scale (value : Int32) (display model : UInt32) : UInt32 :=
  .ofNat (min (value.toNatClampNeg * display.toNat / max model.toNat 1) (UInt32.size - 1))

def area (o : Overlay) (b : PixelBox) : DisplayArea where
  left := scale b.x1 o.display.width o.model.width
  top := scale b.y1 o.display.height o.model.height
  right := scale b.x2 o.display.width o.model.width
  bottom := scale b.y2 o.display.height o.model.height

def marker (i : Nat) : UInt32 := .ofNat i + 1

def clears (first last : Nat) : List MarkerCommand :=
  (List.range' first (last - first)).map fun i ↦ .clear (marker i)

def update (o : Overlay) (boxes : List PixelBox) : List MarkerCommand × Overlay :=
  (clears boxes.length o.shown ++ boxes.mapIdx fun i b ↦ .draw (marker i) (o.area b),
    { o with shown := boxes.length })

def finish (o : Overlay) : List MarkerCommand × Overlay :=
  (clears 0 o.shown, { o with shown := 0 })

end Overlay

end FaceDecode
