import FaceDecode.Geometry.CenterBox
import FaceDecode.Tensor.Basic

namespace FaceDecode

/-- The cells of one scale: how many, how far apart in pixels, and the sides of their anchors. -/
structure Grid where
  columns : Nat
  rows : Nat
  step : Float32
  sides : Vector Float32 anchorsPerCell

namespace Grid

def cells (g : Grid) : Nat := g.columns * g.rows

def center (g : Grid) (i : Nat) (length : Float32) : Float32 :=
  (i.toUInt64.toFloat32 + 0.5) * g.step / length

def cellAnchors (g : Grid) (width height : Float32) (i j : Nat) : List CenterBox :=
  g.sides.toList.map fun side ↦
    { cx := g.center j width, cy := g.center i height, w := side / width, h := side / height }

def anchors (g : Grid) (width height : Float32) : List CenterBox :=
  (List.range g.cells).flatMap fun cell ↦
    g.cellAnchors width height (cell / g.columns) (cell % g.columns)

theorem length_anchors (g : Grid) (width height : Float32) :
    (g.anchors width height).length = anchorsPerCell * g.cells := by
  simp only [anchors, cellAnchors, List.length_flatMap, List.length_map,
    Vector.length_toList, List.map_const', List.length_range, List.sum_replicate_nat]
  exact Nat.mul_comm _ _

theorem length_flatMap_anchors (width height : Float32) (grids : List Grid) :
    (grids.flatMap (·.anchors width height)).length =
      anchorsPerCell * (grids.map cells).foldr (· + ·) 0 := by
  induction grids with
  | nil => rfl
  | cons g grids ih =>
    simp only [List.flatMap_cons, List.length_append, List.map_cons, List.foldr_cons, ih,
      length_anchors, Nat.mul_add]

end Grid

/-- A list holds at most this many anchors: their bytes, four numbers each, are counted in a signed
word. -/
def AnchorTable.maxSize : Nat := 0x7ffffffffffffff

structure AnchorTable where
  anchors : Array CenterBox
  cells : Vector Nat scaleCount
  size_eq : anchors.size = anchorsPerCell * cells.toList.foldr (· + ·) 0
  size_le : anchors.size ≤ AnchorTable.maxSize

namespace AnchorTable

def sizeOf (grids : Vector Grid scaleCount) : Nat :=
  anchorsPerCell * (grids.toList.map (·.cells)).foldr (· + ·) 0

def ofGrids (width height : Float32) (grids : Vector Grid scaleCount)
    (held : sizeOf grids ≤ maxSize) : AnchorTable where
  anchors := (grids.toList.flatMap (·.anchors width height)).toArray
  cells := grids.map (·.cells)
  size_eq := by
    rw [Vector.toList_map, List.size_toArray]
    exact Grid.length_flatMap_anchors width height grids.toList
  size_le := by
    rw [List.size_toArray, Grid.length_flatMap_anchors]
    exact held

/-- The anchors for a picture of the given size, unless they are too many to be held. -/
def ofGrids? (width height : Float32) (grids : Vector Grid scaleCount) : Option AnchorTable :=
  if held : sizeOf grids ≤ maxSize then some (ofGrids width height grids held) else none

def size (t : AnchorTable) : Nat := t.anchors.size

def get (t : AnchorTable) (i : Nat) : Except OutOfRange CenterBox :=
  if h : i < t.anchors.size then .ok t.anchors[i] else .error ⟨i, t.anchors.size⟩

def inputSide : Float32 := 320

def inputGrids : Vector Grid scaleCount := #v[
  { columns := 40, rows := 40, step := 8, sides := #v[16, 32] },
  { columns := 20, rows := 20, step := 16, sides := #v[64, 128] },
  { columns := 10, rows := 10, step := 32, sides := #v[256, 512] }]

def input : AnchorTable := ofGrids inputSide inputSide inputGrids (by decide)

end AnchorTable

end FaceDecode
