import FaceDecode.Picture.Canvas
import FaceDecode.Picture.Bytes

namespace FaceDecode.Png

inductive SampleKind where
  | gray
  | color
  | palette
  | grayAlpha
  | colorAlpha
deriving DecidableEq, Repr

namespace SampleKind

def ofNumber? (n depth : Nat) : Option SampleKind :=
  match n with
  | 0 => if [1, 2, 4, 8, 16].contains depth then some gray else none
  | 2 => if [8, 16].contains depth then some color else none
  | 3 => if [1, 2, 4, 8].contains depth then some palette else none
  | 4 => if [8, 16].contains depth then some grayAlpha else none
  | 6 => if [8, 16].contains depth then some colorAlpha else none
  | _ => none

def count : SampleKind → Nat
  | gray | palette => 1
  | grayAlpha => 2
  | color => 3
  | colorAlpha => 4

end SampleKind

structure Header where
  width : Nat
  height : Nat
  depth : Nat
  kind : SampleKind
  isInterlaced : Bool

namespace Header

def fullSize (h : Header) : Nat :=
  let samples := if h.kind = .palette then 3 else h.kind.count
  h.width * h.height * samples * ((h.depth + 7) / 8)

def ofBytes? (data : ByteArray) : Option Header := do
  guard (13 ≤ data.size)
  let number (i : Nat) : Nat := (byteAt data i).toNat
  let width := highNumber data 0 4
  let height := highNumber data 4 4
  let kind ← SampleKind.ofNumber? (number 9) (number 8)
  guard (0 < width ∧ 0 < height ∧ number 10 = 0 ∧ number 11 = 0 ∧ number 12 < 2)
  let h := { width, height, depth := number 8, kind, isInterlaced := number 12 == 1 }
  guard (h.fullSize ≤ Canvas.maxReadSize)
  return h

def rowSize (h : Header) (columns : Nat) : Nat := (columns * h.kind.count * h.depth + 7) / 8

/-- How far apart the same sample of two pixels lies, in bytes. -/
def pixelStep (h : Header) : Nat := max 1 (h.kind.count * h.depth / 8)

def sample (h : Header) (row : ByteArray) (i : Nat) : Nat :=
  if h.depth < 8 then
    let first := i * h.depth
    ((byteAt row (first / 8)).toNat >>> (8 - h.depth - first % 8)) % (1 <<< h.depth)
  else highNumber row (i * (h.depth / 8)) (h.depth / 8)

def light (h : Header) (sample : Nat) : UInt8 :=
  if h.depth = 16 then .ofNat ((sample + 128) / 257)
  else .ofNat (sample * 255 / ((1 <<< h.depth) - 1))

/-- The colour of pixel number `x` of a row. How much shines through it does not count, and what is
not in the palette is black. -/
def color (h : Header) (palette row : ByteArray) (x : Nat) : Color :=
  let value (k : Nat) : UInt8 := h.light (h.sample row (x * h.kind.count + k))
  match h.kind with
  | .gray | .grayAlpha => .gray (value 0)
  | .color | .colorAlpha => ⟨value 0, value 1, value 2⟩
  | .palette =>
    let entry := 3 * h.sample row x
    ⟨byteAt palette entry, byteAt palette (entry + 1), byteAt palette (entry + 2)⟩

end Header

end FaceDecode.Png
