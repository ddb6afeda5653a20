namespace FaceDecode.Number

open Float.Model

def parts (x : Float32) : UnpackedFloat := .unpack .binary32 x.toBits.toBitVec

def doubleParts (x : Float) : UnpackedFloat := .unpack .binary64 x.toBits.toBitVec

def nearest (format : Format) : UnpackedFloat → UnpackedFloat
  | .finite sign m e _ => .round format sign m e
  | special => special

def single (x : UnpackedFloat) : Float32 := .ofBits (.ofBitVec (x.pack .binary32))

def double (x : UnpackedFloat) : Float := .ofBits (.ofBitVec (x.pack .binary64))

/-- The same number in double precision; nothing is lost. -/
def widen (x : Float32) : Float := double (nearest .binary64 (parts x))

/-- The nearest single precision number; too large a value becomes infinite. -/
def narrow (x : Float) : Float32 := single (nearest .binary32 (doubleParts x))

/-- Cuts the fraction off; the result is held at the ends of the range, and a value that is no
number gives zero. -/
def truncate (x : Float32) : Int32 := (parts x).toInt32

/-- The single precision number nearest to `± m * 10 ^ e`. -/
def ofDecimal (negative : Bool) (m : Nat) (e : Int) : Float32 :=
  let magnitude := single (.ofScientific .binary32 m e)
  if negative then -magnitude else magnitude

end FaceDecode.Number
