import FaceDecode.Picture.Bytes
import FaceDecode.Picture.Canvas
import FaceDecode.Picture.Pnm.Header

namespace FaceDecode.Pnm

namespace Header

def total (h : Header) : Nat := h.width * h.height * h.channels

def sampleSize (h : Header) : Nat := if h.isWide then 2 else 1

def limit (h : Header) : Nat := if h.isWide then UInt16.size - 1 else UInt8.size - 1

/-- A sample, when the brightest one stands for the limit. The factor is rounded before the product. -/
def stretched (h : Header) (sample : Nat) : Nat :=
  if h.brightest = h.limit then sample
  else
    let light := .ofNat sample * (Float32.ofNat h.limit / .ofNat h.brightest)
    min h.limit (((Number.truncate (light + light)).toNatClampNeg + 1) / 2)

def light (h : Header) (sample : Nat) : UInt8 :=
  let n := h.stretched sample
  .ofNat (if h.isWide then (n + 128) / 257 else n)

end Header

def digits? : (count : Nat) → List UInt8 → Array UInt8 → Option (Array UInt8)
  | 0, _, lights => some lights
  | _, [], _ => none
  | count + 1, b :: rest, lights =>
    if isBlank b then digits? (count + 1) rest lights
    else if b = '0'.toUInt8 then digits? count rest (lights.push 255)
    else if b = '1'.toUInt8 then digits? count rest (lights.push 0)
    else none

def words? (h : Header) : (count : Nat) → List UInt8 → Array UInt8 → Option (Array UInt8)
  | 0, _, lights => some lights
  | count + 1, input, lights => do
    let input := input.dropWhile isBlank
    let word := input.takeWhile (!isBlank ·)
    let sample ← Read.bounded? (h.limit + 1) (plain word)
    words? h count (input.drop (word.length + 1)) (lights.push (h.light sample))

def lights? (h : Header) (input : List UInt8) : Option (Nat → UInt8) := do
  let data : ByteArray := ⟨input.toArray⟩
  match h.coding with
  | .digits => return ((← digits? h.total input #[]).getD · 0)
  | .words => return ((← words? h h.total input #[]).getD · 0)
  | .bits =>
    let size := (h.width + 7) / 8
    guard (size * h.height ≤ data.size)
    return fun i ↦
      let column := i % h.width
      let byte := byteAt data (i / h.width * size + column / 8)
      if byte.toNat.testBit (7 - column % 8) then 0 else 255
  | .flags =>
    guard (h.total ≤ data.size ∧ (input.take h.total).all (· ≤ 1))
    return fun i ↦ if byteAt data i = 1 then 255 else 0
  | .bytes =>
    guard (h.total * h.sampleSize ≤ data.size)
    return fun i ↦ h.light (highNumber data (i * h.sampleSize) h.sampleSize)

def decode? (bytes : ByteArray) : Option Canvas := do
  let (h, rest) ← header? bytes.toList
  guard (h.total * h.sampleSize ≤ Canvas.maxReadSize)
  let light ← lights? h rest
  return .ofColors h.width h.height fun x y ↦
    let first := (y * h.width + x) * h.channels
    if h.channels = 1 then .gray (light first)
    else ⟨light first, light (first + 1), light (first + 2)⟩

end FaceDecode.Pnm
