import FaceDecode.Picture.Bytes
import FaceDecode.Picture.Canvas

namespace FaceDecode.Farbfeld

def decode? (bytes : ByteArray) : Option Canvas := do
  let start := 16
  guard (start ≤ bytes.size ∧ bytes.extract 0 8 == "farbfeld".toUTF8)
  let width := highNumber bytes 8 4
  let height := highNumber bytes 12 4
  let size := 8 * (width * height)
  guard (size ≤ Canvas.maxReadSize ∧ start + size ≤ bytes.size)
  return .ofColors width height fun x y ↦
    let first := start + 8 * (y * width + x)
    let light (k : Nat) : UInt8 := .ofNat ((highNumber bytes (first + 2 * k) 2 + 128) / 257)
    ⟨light 0, light 1, light 2⟩

end FaceDecode.Farbfeld
