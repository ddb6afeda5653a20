import FaceDecode.Picture.Bytes
import FaceDecode.Picture.Checksum

namespace FaceDecode.Png

def signature : ByteArray := ⟨#[0x89, 0x50, 0x4e, 0x47, 0x0d, 0x0a, 0x1a, 0x0a]⟩

structure Chunk where
  name : ByteArray
  data : ByteArray
  isSound : Bool

namespace Chunk

def isNamed (c : Chunk) (name : String) : Bool := c.name == name.toUTF8

def isOptional (c : Chunk) : Bool := byteAt c.name 0 &&& 0x20 != 0

def nameAt? (bytes : ByteArray) (start : Nat) : Option ByteArray :=
  if bytes.size < start + 8 then none else some (bytes.extract (start + 4) (start + 8))

def at? (bytes : ByteArray) (start : Nat) : Option (Chunk × Nat) := do
  let name ← nameAt? bytes start
  let stop := start + 8 + highNumber bytes start 4
  guard (stop + 4 ≤ bytes.size)
  let sum := Checksum.cyclic (bytes.extract (start + 4) stop)
  let isSound := sum.toNat == highNumber bytes stop 4
  return ({ name, data := bytes.extract (start + 8) stop, isSound }, stop + 4)

def encode (name : String) (data : ByteArray) : ByteArray :=
  let body := name.toUTF8 ++ data
  fourBytes data.size.toUInt32 ++ body ++ fourBytes (Checksum.cyclic body)

end Chunk

end FaceDecode.Png
