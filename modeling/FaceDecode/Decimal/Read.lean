import FaceDecode.Number.Convert

namespace FaceDecode.Read

def isDigit (c : Char) : Bool := '0' ≤ c && c ≤ '9'

def digitValue (c : Char) : Nat := c.toNat - '0'.toNat

def digitsValue (cs : List Char) : Nat := cs.foldl (fun n c ↦ 10 * n + digitValue c) 0

def spanDigits (cs : List Char) : List Char × List Char := cs.span isDigit

def natural? (cs : List Char) : Option Nat :=
  if cs.isEmpty || !cs.all isDigit then none else some (digitsValue cs)

def bounded? (bound : Nat) (text : String) : Option Nat :=
  let digits := match text.toList with
    | '+' :: rest => rest
    | cs => cs
  (natural? digits).filter (· < bound)

def word? (text : String) : Option UInt32 := (bounded? UInt32.size text).map UInt32.ofNat

def count? (text : String) : Option Nat := bounded? UInt64.size text

/-- What may follow the digits of a decimal: nothing, or an exponent. -/
def exponent? : List Char → Option Int
  | [] => some 0
  | c :: rest =>
    if c = 'e' ∨ c = 'E' then
      match rest with
      | '-' :: digits => (natural? digits).map fun n ↦ -(n : Int)
      | '+' :: digits => (natural? digits).map Int.ofNat
      | digits => (natural? digits).map Int.ofNat
    else none

def magnitude? (cs : List Char) : Option (Nat × Int) :=
  let (whole, rest) := spanDigits cs
  let (fraction, rest) := match rest with
    | '.' :: rest => spanDigits rest
    | rest => ([], rest)
  if whole.isEmpty && fraction.isEmpty then none
  else (exponent? rest).map fun e ↦ (digitsValue (whole ++ fraction), e - fraction.length)

def single? (text : String) : Option Float32 :=
  let (negative, body) := match text.toList with
    | '-' :: rest => (true, rest)
    | '+' :: rest => (false, rest)
    | cs => (false, cs)
  match String.ofList (body.map Char.toLower) with
  | "inf" | "infinity" => some (.ofBits (if negative then 0xff800000 else 0x7f800000))
  | "nan" => some (.ofBits 0x7fc00000)
  | _ => (magnitude? body).map fun (m, e) ↦ Number.ofDecimal negative m e

end FaceDecode.Read
