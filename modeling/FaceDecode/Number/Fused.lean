import FaceDecode.Number.Convert

namespace FaceDecode.Number

open Float.Model

def wholeProduct : UnpackedFloat → UnpackedFloat → UnpackedFloat
  | .finite s₁ m₁ e₁ h₁, .finite s₂ m₂ e₂ h₂ =>
    .finite (s₁ * s₂) (m₁ * m₂) (e₁ + e₂) (Nat.mul_pos h₁ h₂)
  | x, y => x.mul .binary64 y

def fused (a b c : Float) : Float :=
  let product := wholeProduct (doubleParts a) (doubleParts b)
  double (nearest .binary64 (product.add .binary64 (doubleParts c)))

end FaceDecode.Number
