import FaceDecode.Picture.Bytes
import FaceDecode.Picture.Canvas

namespace FaceDecode.Qoi

structure Pixel where
  color : Color
  alpha : UInt8

def Pixel.place (p : Pixel) : Nat :=
  (3 * p.color.red.toNat + 5 * p.color.green.toNat + 7 * p.color.blue.toNat + 11 * p.alpha.toNat) % 64

structure State where
  last : Pixel := ⟨Canvas.black, 255⟩
  seen : Array Pixel := .replicate 64 ⟨Canvas.black, 0⟩

def State.push (s : State) (p : Pixel) : State := ⟨p, s.seen.setIfInBounds p.place p⟩

def State.moved (s : State) (red green blue : UInt8) : Pixel :=
  { s.last with color := ⟨s.last.color.red + red, s.last.color.green + green, s.last.color.blue + blue⟩ }

structure Step where
  state : State
  count : Nat := 1
  size : Nat := 1

def step? (hasAlpha : Bool) (bytes : ByteArray) (start : Nat) (s : State) : Option Step :=
  let byte (i : Nat) : UInt8 := byteAt bytes (start + i)
  let head := byte 0
  let low := head &&& 63
  if head = 255 then
    if hasAlpha then some ⟨s.push ⟨⟨byte 1, byte 2, byte 3⟩, byte 4⟩, 1, 5⟩ else none
  else if head = 254 then some ⟨s.push ⟨⟨byte 1, byte 2, byte 3⟩, s.last.alpha⟩, 1, 4⟩
  else if 192 ≤ head then some ⟨s, low.toNat + 1, 1⟩
  else if 128 ≤ head then
    let green := low - 32
    let others := byte 1
    some ⟨s.push (s.moved (green + (others >>> 4) - 8) green (green + (others &&& 15) - 8)), 1, 2⟩
  else if 64 ≤ head then
    some ⟨s.push (s.moved ((low >>> 4) - 2) (((low >>> 2) &&& 3) - 2) ((low &&& 3) - 2)), 1, 1⟩
  else
    let p := s.seen.getD low.toNat s.last
    some ⟨{ s with last := if hasAlpha then p else { p with alpha := 255 } }, 1, 1⟩

def ending : ByteArray := ⟨#[0, 0, 0, 0, 0, 0, 0, 1]⟩

def pixels? (hasAlpha : Bool) (bytes : ByteArray) (count : Nat) :
    (fuel start : Nat) → State → Array Color → Option (Array Color)
  | 0, _, _, _ => none
  | fuel + 1, start, s, out =>
    if count ≤ out.size then
      if bytes.extract start (start + ending.size) == ending then some out else none
    else do
      let step ← step? hasAlpha bytes start s
      let next := start + step.size
      guard (next ≤ bytes.size)
      pixels? hasAlpha bytes count fuel next step.state
        (out ++ .replicate step.count step.state.last.color)

def decode? (bytes : ByteArray) : Option Canvas := do
  let start := 14
  guard (start ≤ bytes.size ∧ bytes.extract 0 4 == "qoif".toUTF8)
  let width := highNumber bytes 4 4
  let height := highNumber bytes 8 4
  let channels := (byteAt bytes 12).toNat
  let count := width * height
  guard (channels = 3 ∨ channels = 4)
  guard (byteAt bytes 13 ≤ 1 ∧ 0 < count ∧ count ≤ 400000000)
  guard (count * channels ≤ Canvas.maxReadSize)
  let colors ← pixels? (channels == 4) bytes count (bytes.size + 1) start {} #[]
  return .ofColors width height fun x y ↦ colors.getD (y * width + x) Canvas.black

end FaceDecode.Qoi
