namespace FaceDecode.Digits

def digit (n : Nat) : Char := "0123456789ABCDEF".toList.getD n '0'

def padded (base : Nat) : (width : Nat) → Nat → List Char
  | 0, _ => []
  | width + 1, n => padded base width (n / base) ++ [digit (n % base)]

def hexValue? (c : Char) : Option Nat :=
  if '0' ≤ c ∧ c ≤ '9' then some (c.toNat - '0'.toNat)
  else if 'a' ≤ c ∧ c ≤ 'f' then some (c.toNat - 'a'.toNat + 10)
  else if 'A' ≤ c ∧ c ≤ 'F' then some (c.toNat - 'A'.toNat + 10)
  else none

end FaceDecode.Digits
