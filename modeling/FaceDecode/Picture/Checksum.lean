namespace FaceDecode.Checksum

def divideBit (r : UInt32) : UInt32 := if r &&& 1 = 1 then (r >>> 1) ^^^ 0xedb88320 else r >>> 1

def remainders : Array UInt32 :=
  .ofFn fun b : Fin 256 ↦ (List.range 8).foldl (fun r _ ↦ divideBit r) b.val.toUInt32

def takeByte (r : UInt32) (b : UInt8) : UInt32 :=
  remainders.getD ((r ^^^ b.toUInt32) &&& 0xff).toNat 0 ^^^ (r >>> 8)

def cyclic (bytes : ByteArray) : UInt32 := bytes.foldl takeByte 0xffffffff ^^^ 0xffffffff

/-- The sum of the bytes and the sum of those sums, each modulo a prime. -/
def sums (bytes : ByteArray) : UInt32 :=
  let (a, b) := bytes.foldl
    (fun (a, b) byte ↦
      let a := (a + byte.toUInt32) % 65521
      (a, (b + a) % 65521))
    ((1 : UInt32), (0 : UInt32))
  b <<< 16 ||| a

end FaceDecode.Checksum
