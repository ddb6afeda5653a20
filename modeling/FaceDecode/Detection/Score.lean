namespace FaceDecode

/-- A probability by its encoding. -/
structure Score where
  bits : UInt32
deriving DecidableEq, Repr

namespace Score

def ofValue (x : Float32) : Score := ⟨x.toBits⟩

def value (s : Score) : Float32 := .ofBits s.bits

/-- The place of a score among all encodings: those with a sign come first and fall with their
magnitude, so negative zero comes before zero, and what is no number lies at the two ends. -/
def rank (s : Score) : Int :=
  let bits := s.bits.toNat
  if bits < 0x80000000 then bits else 0x7fffffff - (bits : Int)

end Score

end FaceDecode
