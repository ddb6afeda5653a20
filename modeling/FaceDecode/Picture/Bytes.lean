namespace FaceDecode

def byteAt (bytes : ByteArray) (i : Nat) : UInt8 :=
  if h : i < bytes.size then bytes.get i h else 0

def highNumber (bytes : ByteArray) (start : Nat) : (count : Nat) → Nat
  | 0 => 0
  | count + 1 => 256 * highNumber bytes start count + (byteAt bytes (start + count)).toNat

/-- The number in some bytes from a place on, the low one first. -/
def lowNumber (bytes : ByteArray) (start : Nat) : (count : Nat) → Nat
  | 0 => 0
  | count + 1 => (byteAt bytes start).toNat + 256 * lowNumber bytes (start + 1) count

def fourBytes (n : UInt32) : ByteArray :=
  ⟨#[(n >>> 24).toUInt8, (n >>> 16).toUInt8, (n >>> 8).toUInt8, n.toUInt8]⟩

end FaceDecode
