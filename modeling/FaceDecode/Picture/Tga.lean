import FaceDecode.Picture.Bytes
import FaceDecode.Picture.Canvas

namespace FaceDecode.Tga

inductive PixelKind where
  | palette (first : Nat)
  | color
  | gray
deriving DecidableEq, Repr

/-- Whether a pixel may have so many bits for its colour and, beside them, for what shines through. -/
def PixelKind.admits (kind : PixelKind) (color alpha : Nat) : Bool :=
  match kind with
  | .gray => color == 8 && (alpha == 0 || alpha == 8)
  | _ => color == 24 && (alpha == 0 || alpha == 8) || color == 32 && alpha == 0

structure Header where
  width : Nat
  height : Nat
  kind : PixelKind
  isPacked : Bool
  isTopDown : Bool
  isMirrored : Bool
  pixelSize : Nat
  paletteStart : Nat
  entrySize : Nat
  start : Nat

def Header.read? (bytes : ByteArray) : Option Header := do
  let number (i : Nat) : Nat := (byteAt bytes i).toNat
  let hasPalette := number 1 == 1
  let depth := number 16
  let alpha := number 17 % 16
  let kind ← match number 2 % 8, depth with
    | 1, 8 | 1, 16 => if hasPalette then some (.palette (lowNumber bytes 3 2)) else none
    | 2, 24 | 2, 32 => some .color
    | 3, 8 | 3, 16 => some .gray
    | _, _ => none
  let paletteStart := 18 + number 0
  let entrySize := (number 7 + 7) / 8
  let colorDepth := if hasPalette then number 7 else depth - alpha
  guard (18 ≤ bytes.size ∧ number 2 < 16 ∧ number 1 ≤ 1)
  guard (kind.admits colorDepth alpha)
  return {
    width := lowNumber bytes 12 2
    height := lowNumber bytes 14 2
    kind
    isPacked := number 2 ≥ 8
    isTopDown := (number 17).testBit 5
    isMirrored := (number 17).testBit 4
    pixelSize := depth / 8
    paletteStart
    entrySize
    start := paletteStart + (if hasPalette then lowNumber bytes 5 2 * entrySize else 0) }

/-- The runs from a place on up to a size; the last one may go beyond it. -/
def unpacked? (pixelSize size : Nat) (bytes : ByteArray) :
    (fuel start : Nat) → (before : ByteArray) → Option ByteArray
  | 0, _, _ => none
  | fuel + 1, start, before =>
    if size ≤ before.size then some before
    else
      let head := (byteAt bytes start).toNat
      let count := head % 128 + 1
      let next := start + 1 + (if head < 128 then count * pixelSize else pixelSize)
      let run := bytes.extract (start + 1) next
      if bytes.size < next then none
      else unpacked? pixelSize size bytes fuel next
        (if head < 128 then before ++ run else count.fold (fun _ _ out ↦ out ++ run) before)

def decode? (bytes : ByteArray) : Option Canvas := do
  let h ← Header.read? bytes
  let size := h.width * h.height * h.pixelSize
  guard (3 * (h.width * h.height) ≤ Canvas.maxReadSize ∧ h.start ≤ bytes.size)
  let data ←
    if h.isPacked then unpacked? h.pixelSize size bytes (bytes.size + 1) h.start .empty
    else some (bytes.extract h.start bytes.size)
  guard (size ≤ data.size)
  let pixel (x y : Nat) : Nat :=
    let row := if h.isTopDown then y else h.height - 1 - y
    let column := if h.isMirrored then h.width - 1 - x else x
    (row * h.width + column) * h.pixelSize
  let entry (x y : Nat) (first : Nat) : Nat :=
    h.paletteStart + (lowNumber data (pixel x y) h.pixelSize - first) * h.entrySize
  let color (bytes : ByteArray) (i : Nat) : Color :=
    ⟨byteAt bytes (i + 2), byteAt bytes (i + 1), byteAt bytes i⟩
  return .ofColors h.width h.height fun x y ↦
    match h.kind with
    | .palette first => color bytes (entry x y first)
    | .color => color data (pixel x y)
    | .gray => .gray (byteAt data (pixel x y))

end FaceDecode.Tga
