import FaceDecode.Number.Fused

namespace FaceDecode.Number

/-- The encodings of `2 ^ (i / 32)` in double precision. -/
def roots : Vector UInt64 32 := #v[
  0x3ff0000000000000, 0x3ff059b0d3158574, 0x3ff0b5586cf9890f, 0x3ff11301d0125b51,
  0x3ff172b83c7d517b, 0x3ff1d4873168b9aa, 0x3ff2387a6e756238, 0x3ff29e9df51fdee1,
  0x3ff306fe0a31b715, 0x3ff371a7373aa9cb, 0x3ff3dea64c123422, 0x3ff44e086061892d,
  0x3ff4bfdad5362a27, 0x3ff5342b569d4f82, 0x3ff5ab07dd485429, 0x3ff6247eb03a5585,
  0x3ff6a09e667f3bcd, 0x3ff71f75e8ec5f74, 0x3ff7a11473eb0187, 0x3ff82589994cce13,
  0x3ff8ace5422aa0db, 0x3ff93737b0cdc5e5, 0x3ff9c49182a3f090, 0x3ffa5503b23e255d,
  0x3ffae89f995ad3ad, 0x3ffb7f76f2fb5e47, 0x3ffc199bdd85529c, 0x3ffcb720dcef9069,
  0x3ffd5818dcfba487, 0x3ffdfc97337b9b5f, 0x3ffea4afa2a490da, 0x3fff50765b6e4540]

/-- Thirty-seconds of an octave in one unit of the natural logarithm. -/
def stepsPerUnit : Float := .ofBits 0x40471547652b82fe

/-- Adding this number leaves a whole number in the low bits of the encoding. -/
def wholeShift : Float := .ofBits 0x4338000000000000

/-- The cubic that stands for `2 ^ (rest / 32)`. -/
def restFactor (rest : Float) : Float :=
  let linear := fused (.ofBits 0x3f962e42ff0c52d6) rest 1
  let upper := fused (.ofBits 0x3ebc6af84b912394) rest (.ofBits 0x3f2ebfce50fac4f3)
  fused upper (rest * rest) linear

def expInRange (x : Float32) : Float32 :=
  let x := widen x
  let shifted := fused stepsPerUnit x wholeShift
  let whole := shifted.toBits
  let root := roots.get (Fin.ofNat 32 whole.toNat)
  let power := Float.ofBits (root + ((whole >>> 5) <<< 52))
  let rest := fused stepsPerUnit x (wholeShift - shifted)
  narrow (restFactor rest * power)

def expUpperEnd : Float32 := .ofBits 0x42b17217

def expLowerEnd : Float32 := .ofBits 0xc2cff1b4

/-- The exponential of `x`, within one unit in the last place. -/
def exp (x : Float32) : Float32 :=
  if x.isNaN then x
  else if expUpperEnd < x then .ofBits 0x7f800000
  else if x < expLowerEnd then 0
  else expInRange x

end FaceDecode.Number
