import FaceDecode.Picture.Bytes
import FaceDecode.Picture.Canvas

namespace FaceDecode.Bmp

/-- The bits of a pixel that give one of its colours: how many, and how many lie below them. -/
structure Field where
  shift : Nat
  length : Nat

namespace Field

/-- How many times two divides a number; `fuel` is at least that. -/
def zeros : (fuel n : Nat) → Nat
  | 0, _ => 0
  | fuel + 1, n => if n % 2 = 0 then zeros fuel (n / 2) + 1 else 0

/-- The field of a mask whose ones lie beside each other below a bit. Of more than eight bits the
high ones count. -/
def ofMask? (depth mask : Nat) : Option Field :=
  if mask = 0 then some ⟨0, 0⟩
  else
    let shift := zeros depth mask
    let length := zeros (depth + 1) ((mask >>> shift) + 1)
    if mask = ((1 <<< length) - 1) <<< shift ∧ shift + length ≤ depth then
      some ⟨shift + (length - 8), min length 8⟩
    else none

def light (f : Field) (n : Nat) : UInt8 :=
  let full := (1 <<< f.length) - 1
  .ofNat (((n >>> f.shift) % (full + 1) * 510 + full) / (2 * full))

end Field

inductive PixelKind where
  | palette (start count size : Nat)
  | fields (red green blue : Field)

structure Header where
  width : Nat
  height : Nat
  isTopDown : Bool
  depth : Nat
  kind : PixelKind

namespace Header

/-- The palette of a picture; it has room for all numbers unless its size is given. -/
def palette? (depth start used size : Nat) : Option PixelKind :=
  if 1 <<< depth < used then none
  else some (.palette start (if used = 0 then 1 <<< depth else used) size)

def even (length : Nat) : PixelKind :=
  .fields ⟨2 * length, length⟩ ⟨length, length⟩ ⟨0, length⟩

/-- Pixels whose fields the file describes. The fourth mask does not count, but it must be one. -/
def masked? (bytes : ByteArray) (size depth : Nat) : Option PixelKind := do
  let field? (i : Nat) : Option Field := Field.ofMask? depth (lowNumber bytes (54 + 4 * i) 4)
  let count := if 56 ≤ size then 4 else 3
  guard (54 + 4 * count ≤ bytes.size)
  let red ← field? 0
  let green ← field? 1
  let blue ← field? 2
  guard (count = 3 ∨ (field? 3).isSome)
  guard (red.length ≠ 0 ∧ green.length ≠ 0 ∧ blue.length ≠ 0)
  return .fields red green blue

def short? (bytes : ByteArray) : Option Header := do
  guard (26 ≤ bytes.size ∧ lowNumber bytes 22 2 = 1)
  let depth := lowNumber bytes 24 2
  let kind ← match depth with
    | 1 | 4 | 8 => palette? depth 26 0 3
    | 24 => some (even 8)
    | _ => none
  let width := lowNumber bytes 18 2
  let height := lowNumber bytes 20 2
  return { width, height, isTopDown := false, depth, kind }

/-- A long header. A height below zero says that the rows come from top to bottom. -/
def long? (bytes : ByteArray) (size : Nat) : Option Header := do
  guard (54 ≤ bytes.size ∧ lowNumber bytes 26 2 = 1)
  let largest := UInt16.size - 1
  let width := lowNumber bytes 18 4
  let height := lowNumber bytes 22 4
  let isTopDown := decide (UInt32.size / 2 ≤ height)
  guard (width ≤ largest ∧ height ≠ UInt32.size / 2 ∧ (isTopDown ∨ height ≤ largest))
  let depth := lowNumber bytes 28 2
  let kind ← match lowNumber bytes 30 4, depth with
    | 0, 1 | 0, 2 | 0, 4 | 0, 8 => palette? depth (14 + size) (lowNumber bytes 46 4) 4
    | 0, 16 => some (even 5)
    | 0, 24 | 0, 32 => some (even 8)
    | 3, 16 | 3, 32 => masked? bytes size depth
    | _, _ => none
  return { width, height := if isTopDown then UInt32.size - height else height, isTopDown, depth, kind }

def read? (bytes : ByteArray) : Option Header := do
  guard (18 ≤ bytes.size ∧ bytes.extract 0 2 == "BM".toUTF8)
  let size := lowNumber bytes 14 4
  if size = 12 then short? bytes
  else if [40, 52, 56, 108, 124].contains size then long? bytes size
  else none

def rowSize (h : Header) : Nat := (h.width * h.depth + 31) / 32 * 4

/-- Pixel number `x` of the row at a place. Small numbers have the high bits first. -/
def pixel (h : Header) (bytes : ByteArray) (row x : Nat) : Nat :=
  if h.depth < 8 then
    let first := x * h.depth
    ((byteAt bytes (row + first / 8)).toNat >>> (8 - h.depth - first % 8)) % (1 <<< h.depth)
  else lowNumber bytes (row + x * (h.depth / 8)) (h.depth / 8)

def color (h : Header) (bytes : ByteArray) (pixel : Nat) : Color :=
  match h.kind with
  | .palette start count size =>
    if pixel < count then
      let entry := start + pixel * size
      ⟨byteAt bytes (entry + 2), byteAt bytes (entry + 1), byteAt bytes entry⟩
    else Canvas.black
  | .fields red green blue => ⟨red.light pixel, green.light pixel, blue.light pixel⟩

def paletteEnd (h : Header) : Nat :=
  match h.kind with
  | .palette start count size => start + count * size
  | .fields .. => 0

end Header

def decode? (bytes : ByteArray) : Option Canvas := do
  let h ← Header.read? bytes
  let start := lowNumber bytes 10 4
  guard (0 < h.width ∧ 3 * (h.width * h.height) ≤ Canvas.maxReadSize)
  guard (h.paletteEnd ≤ bytes.size ∧ (h.height = 0 ∨ start + h.rowSize * h.height ≤ bytes.size))
  return .ofColors h.width h.height fun x y ↦
    let row := if h.isTopDown then y else h.height - 1 - y
    h.color bytes (h.pixel bytes (start + row * h.rowSize) x)

end FaceDecode.Bmp
