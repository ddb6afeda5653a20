namespace FaceDecode

structure Color where
  red : UInt8
  green : UInt8
  blue : UInt8
deriving DecidableEq, Repr

def Color.gray (light : UInt8) : Color := ⟨light, light, light⟩

structure Canvas where
  width : Nat
  height : Nat
  pixels : Vector Color (width * height)

namespace Canvas

def maxSize : Nat := UInt64.size / 2 - 1

/-- The most bytes that a picture may have that is read from a file. -/
def maxReadSize : Nat := 512 * 1024 * 1024

def filled (width height : Nat) (color : Color) : Canvas := ⟨width, height, .replicate _ color⟩

def filled? (width height : Nat) (color : Color) : Option Canvas :=
  if 3 * (width * height) ≤ maxSize then some (filled width height color) else none

/-- The picture whose pixel in column `x` and row `y` is `color x y`. -/
def ofColors (width height : Nat) (color : (x y : Nat) → Color) : Canvas :=
  ⟨width, height, .ofFn fun i ↦ color (i.val % width) (i.val / width)⟩

def black : Color := ⟨0, 0, 0⟩

theorem index_lt {width height x y : Nat} (hx : x < width) (hy : y < height) :
    y * width + x < width * height := by
  have := Nat.mul_le_mul_right width (Nat.succ_le_of_lt hy)
  rw [Nat.succ_mul, Nat.mul_comm height] at this
  omega

def pixel? (c : Canvas) (x y : Nat) : Option Color :=
  if h : x < c.width ∧ y < c.height then some (c.pixels.get ⟨y * c.width + x, index_lt h.1 h.2⟩)
  else none

def set (c : Canvas) (x y : Nat) (color : Color) : Canvas :=
  if h : x < c.width ∧ y < c.height then
    { c with pixels := c.pixels.set (y * c.width + x) color (index_lt h.1 h.2) }
  else c

/-- The numbers below `size` from `first` to `last`, or from `last` to `first`. -/
def between (size : Nat) (first last : Int) : List Nat :=
  let low := (min first last).toNat
  let stop := min (max first last + 1).toNat size
  .range' low (stop - low)

def paintRow (c : Canvas) (color : Color) (y first last : Int) : Canvas :=
  (between c.height y y).foldl (fun c row ↦
    (between c.width first last).foldl (fun c column ↦ c.set column row color) c) c

def paintColumn (c : Canvas) (color : Color) (x first last : Int) : Canvas :=
  (between c.width x x).foldl (fun c column ↦
    (between c.height first last).foldl (fun c row ↦ c.set column row color) c) c

end Canvas

end FaceDecode
