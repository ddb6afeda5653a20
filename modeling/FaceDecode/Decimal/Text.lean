import FaceDecode.Decimal.Shortest

namespace FaceDecode

namespace Decimal

def positional (d : Decimal) : String :=
  let text := toString d.digits
  if 0 ≤ d.exponent then
    if d.digits = 0 then text else text ++ String.ofList (List.replicate d.exponent.toNat '0')
  else
    let places := (-d.exponent).toNat
    let padded := List.replicate (places + 1 - text.length) '0' ++ text.toList
    let whole := padded.length - places
    String.ofList (padded.take whole) ++ "." ++ String.ofList (padded.drop whole)

def scientific (d : Decimal) : String :=
  let text := (toString d.digits).toList
  let power := d.exponent + (text.length - 1 : Nat)
  let mantissa := match text with
    | [] => ""
    | [c] => String.ofList [c]
    | c :: rest => String.ofList (c :: '.' :: rest)
  let sign := if power < 0 then "-" else "+"
  mantissa ++ "e" ++ sign ++ toString power.natAbs

end Decimal

namespace Number

open Float.Model Decimal

def signText : UnpackedFloat.Sign → String
  | .positive => ""
  | .negative => "-"

def text (x : Float32) : String :=
  match parts x with
  | .notANumber => "NaN"
  | .infinity sign => signText sign ++ "inf"
  | .zero sign => signText sign ++ "0"
  | .finite sign m e _ => signText sign ++ (shortest .up m e).positional

def thousandths (x : Float32) : String :=
  match parts x with
  | .notANumber => "NaN"
  | .infinity sign => signText sign ++ "inf"
  | .zero sign => signText sign ++ "0.000"
  | .finite sign m e _ => signText sign ++ (fixed 3 m e).positional

/-- The decimals that a data file writes without an exponent: from `1e-6` to below `1e13`. -/
def writtenInFull (d : Decimal) : Bool :=
  let point := d.exponent + ((toString d.digits).length : Nat)
  decide (-5 ≤ point ∧ point ≤ 13)

/-- A number in a data file: shortest digits, a point in any number written in full, and `null` for
what is not a finite number. -/
def dataText (x : Float32) : String :=
  match parts x with
  | .notANumber | .infinity _ => "null"
  | .zero sign => signText sign ++ "0.0"
  | .finite sign m e _ =>
    let d := shortest .toEven m e
    let body :=
      if writtenInFull d then
        if d.exponent < 0 then d.positional else d.positional ++ ".0"
      else d.scientific
    signText sign ++ body

end Number

end FaceDecode
