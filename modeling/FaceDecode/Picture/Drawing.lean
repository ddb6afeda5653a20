import FaceDecode.Picture.Canvas
import FaceDecode.Report.Basic

namespace FaceDecode

namespace Canvas

def boxColor : Color := ⟨0, 255, 0⟩

def pointColors : Vector Color 5 :=
  #v[⟨255, 0, 0⟩, ⟨0, 0, 255⟩, ⟨255, 255, 0⟩, ⟨255, 0, 255⟩, ⟨0, 255, 255⟩]

/-- How far each ring of the border lies inside the box. -/
def insets : List Int32 := [0, 1]

/-- The rows of a disc around its centre, and how far each reaches to both sides. -/
def discRows : List (Int32 × Int32) := [(-3, 1), (-2, 2), (-1, 3), (0, 3), (1, 3), (2, 2), (3, 1)]

def paintRing (c : Canvas) (left top width height : Int32) : Canvas :=
  let right := left + width - 1
  let bottom := top + height - 1
  let c := c.paintRow boxColor top.toInt left.toInt right.toInt
  let c := c.paintRow boxColor bottom.toInt left.toInt right.toInt
  let c := c.paintColumn boxColor left.toInt top.toInt bottom.toInt
  c.paintColumn boxColor right.toInt top.toInt bottom.toInt

/-- Rings at the given insets, up to the first that has no room. -/
def paintRings (b : PixelBox) : List Int32 → Canvas → Canvas
  | [], c => c
  | t :: rest, c =>
    let width := b.width - 2 * t
    let height := b.height - 2 * t
    if width ≤ 0 ∨ height ≤ 0 then c
    else paintRings b rest (c.paintRing (b.x1 + t) (b.y1 + t) width height)

def paintBox (c : Canvas) (b : PixelBox) : Canvas := paintRings b insets c

def paintDisc (c : Canvas) (color : Color) (center : Point Int32) : Canvas :=
  discRows.foldl (fun c (dy, reach) ↦
    c.paintRow color (center.y + dy).toInt (center.x - reach).toInt (center.x + reach).toInt) c

def paintPoints (c : Canvas) (points : Landmarks Int32) : Canvas :=
  (points.toList.zip pointColors.toList).foldl (fun c (p, color) ↦ c.paintDisc color p) c

def drawFaces (c : Canvas) (faces : List Face) : Canvas :=
  faces.foldl (fun c f ↦ (c.paintBox f.box).paintPoints f.landmarks) c

end Canvas

end FaceDecode
