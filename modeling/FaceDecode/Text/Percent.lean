import FaceDecode.Text.Digits
import FaceDecode.Text.Utf8

namespace FaceDecode.Percent

def encodeByte (b : UInt8) : List Char := '%' :: Digits.padded 16 2 b.toNat

def encode (keeps : Char → Bool) (cs : List Char) : List Char :=
  cs.flatMap fun c ↦ if keeps c then [c] else (Utf8.encode [c]).flatMap encodeByte

def byte? (high low : Char) : Option UInt8 :=
  (Digits.hexValue? high).bind fun h ↦ (Digits.hexValue? low).map fun l ↦ .ofNat (16 * h + l)

/-- The bytes of a text. A percent sign that two digits do not follow stands for itself. -/
def decode : List Char → List UInt8
  | [] => []
  | '%' :: h :: l :: rest =>
    match byte? h l with
    | some b => b :: decode rest
    | none => Utf8.encode ['%'] ++ decode (h :: l :: rest)
  | c :: rest => Utf8.encode [c] ++ decode rest

end FaceDecode.Percent
