import FaceDecode.Number.Exponential
import FaceDecode.Number.Order

namespace FaceDecode

structure Point (α : Type) where
  x : α
  y : α
deriving DecidableEq, Repr

/-- Left eye, right eye, nose, left and right corner of the mouth. -/
abbrev Landmarks (α : Type) := Vector (Point α) 5

/-- A box by its centre and its sides. -/
structure CenterBox where
  cx : Float32
  cy : Float32
  w : Float32
  h : Float32

namespace CenterBox

open Number

def centerVariance : Float32 := 0.1

def sizeVariance : Float32 := 0.2

/-- The length that two stretches of a line share; below zero where they lie apart. -/
def overlap (c₁ w₁ c₂ w₂ : Float32) : Float32 :=
  smaller (c₁ + w₁ / 2) (c₂ + w₂ / 2) - larger (c₁ - w₁ / 2) (c₂ - w₂ / 2)

def area (b : CenterBox) : Float32 := b.w * b.h

def intersection (a b : CenterBox) : Float32 :=
  let w := overlap a.cx a.w b.cx b.w
  let h := overlap a.cy a.h b.cy b.h
  if w < 0 ∨ h < 0 then 0 else w * h

/-- The shared area as a part of the covered area, and zero where nothing is covered. -/
def iou (a b : CenterBox) : Float32 :=
  let shared := a.intersection b
  let covered := a.area + b.area - shared
  if covered ≤ 0 then 0 else shared / covered

def decode (anchor : CenterBox) (shifts : Vector Float32 4) : CenterBox where
  cx := anchor.cx + shifts[0] * centerVariance * anchor.w
  cy := anchor.cy + shifts[1] * centerVariance * anchor.h
  w := anchor.w * exp (shifts[2] * sizeVariance)
  h := anchor.h * exp (shifts[3] * sizeVariance)

def decodeLandmarks (anchor : CenterBox) (shifts : Vector Float32 10) : Landmarks Float32 :=
  .ofFn fun j ↦
    { x := anchor.cx + shifts[2 * j.val] * centerVariance * anchor.w
      y := anchor.cy + shifts[2 * j.val + 1] * centerVariance * anchor.h }

end CenterBox

end FaceDecode
