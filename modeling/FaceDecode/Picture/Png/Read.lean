import FaceDecode.Picture.Inflate
import FaceDecode.Picture.Png.Chunk
import FaceDecode.Picture.Png.Rows

namespace FaceDecode.Png

structure Prelude where
  header : Header
  palette : Option ByteArray := none
  frames : Nat := 0

namespace Prelude

/-- Whether a frame is the next one and covers the picture. -/
def admits (p : Prelude) (frame : ByteArray) : Bool :=
  26 ≤ frame.size && highNumber frame 0 4 == p.frames &&
    highNumber frame 4 4 == p.header.width && highNumber frame 8 4 == p.header.height &&
    highNumber frame 12 4 == 0 && highNumber frame 16 4 == 0 &&
    byteAt frame 24 ≤ 2 && byteAt frame 25 ≤ 1

def isPalette (data : ByteArray) : Bool := data.size % 3 == 0 && data.size ≤ 3 * 256

def take? (p : Prelude) (c : Chunk) : Option Prelude :=
  if c.isNamed "fdAT" then none
  else if !c.isSound then if c.isOptional then some p else none
  else if c.isNamed "PLTE" then
    if p.palette.isNone && isPalette c.data then some { p with palette := some c.data } else none
  else if c.isNamed "fcTL" then
    if p.admits c.data then some { p with frames := p.frames + 1 } else none
  else if c.isOptional then some p else none

def read? (bytes : ByteArray) : (fuel start : Nat) → Prelude → Option (Prelude × Nat)
  | 0, _, _ => none
  | fuel + 1, start, p => do
    let (c, next) ← Chunk.at? bytes start
    if c.isNamed "IDAT" then return (p, start)
    read? bytes fuel next (← p.take? c)

end Prelude

def packed? (bytes : ByteArray) : (fuel start : Nat) → (before : ByteArray) → Option ByteArray
  | 0, _, _ => none
  | fuel + 1, start, before => do
    if (← Chunk.nameAt? bytes start) != "IDAT".toUTF8 then return before
    let (c, next) ← Chunk.at? bytes start
    guard c.isSound
    packed? bytes fuel next (before ++ c.data)

def unpacked? (data : ByteArray) : Option ByteArray := do
  let first := (byteAt data 0).toNat
  let second := (byteAt data 1).toNat
  guard (first % 16 = 8 ∧ first / 16 ≤ 7 ∧ (256 * first + second) % 31 = 0 ∧ second / 32 % 2 = 0)
  Inflate.decode? (data.extract 2 data.size)

def decode? (bytes : ByteArray) : Option Canvas := do
  guard (bytes.extract 0 signature.size == signature)
  let fuel := bytes.size / 12 + 1
  let (first, start) ← Chunk.at? bytes signature.size
  guard (first.isNamed "IHDR" && first.isSound)
  let (prelude, start) ← Prelude.read? bytes fuel start { header := ← Header.ofBytes? first.data }
  guard (prelude.header.kind ≠ .palette ∨ prelude.palette.isSome)
  let data ← unpacked? (← packed? bytes fuel start .empty)
  canvas? prelude.header (prelude.palette.getD .empty) data

end FaceDecode.Png
