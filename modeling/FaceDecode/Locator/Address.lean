import FaceDecode.Decimal.Read
import FaceDecode.Text.Digits

namespace FaceDecode.Address

def byte? (digits : String) : Option Nat :=
  match Read.natural? digits.toList with
  | some n => if n < 256 ∧ (digits.length = 1 ∨ digits.front ≠ '0') then some n else none
  | none => none

/-- The groups that one part tells: one of up to four digits, or two of four bytes. Only the last
part may be four bytes. -/
def part? (isLast : Bool) (part : String) : Option (List Nat) :=
  if isLast && part.contains '.' then
    match (part.splitOn ".").mapM byte? with
    | some [a, b, c, d] => some [256 * a + b, 256 * c + d]
    | _ => none
  else if 1 ≤ part.length ∧ part.length ≤ 4 then
    (part.toList.mapM Digits.hexValue?).map fun digits ↦ [digits.foldl (fun n d ↦ 16 * n + d) 0]
  else none

def run? (endsAddress : Bool) (run : String) : Option (List Nat) :=
  if run.isEmpty then some []
  else
    let parts := run.splitOn ":"
    (parts.zipIdx.mapM fun (part, i) ↦ part? (endsAddress && i + 1 == parts.length) part).map
      List.flatten

def groups? (text : String) : Option (List Nat) :=
  match text.splitOn "::" with
  | [whole] => (run? true whole).filter (·.length == 8)
  | [first, second] =>
    match run? false first, run? true second with
    | some a, some b =>
      if a.length + b.length ≤ 7 then some (a ++ .replicate (8 - a.length - b.length) 0 ++ b)
      else none
    | _, _ => none
  | _ => none

def zerosAt (groups : List Nat) (i : Nat) : Nat := ((groups.drop i).takeWhile (· == 0)).length

/-- The place of the longest run of zeros, the first one of equals. -/
def longestZeros (groups : List Nat) : Nat :=
  (List.range groups.length).foldl (fun best i ↦
    if zerosAt groups best < zerosAt groups i then i else best) 0

def runText (groups : List Nat) : String :=
  ":".intercalate (groups.map fun n ↦ .ofList (Nat.toDigits 16 n))

def groupsText (groups : List Nat) : String :=
  let place := longestZeros groups
  let count := zerosAt groups place
  if count < 2 then runText groups
  else runText (groups.take place) ++ "::" ++ runText (groups.drop (place + count))

def ofDigits? (base : Nat) (digits : List Char) : Option Nat :=
  (digits.mapM fun c ↦ (Digits.hexValue? c).filter (· < base)).map fun ds ↦
    ds.foldl (fun n d ↦ base * n + d) 0

/-- A number in base ten, or in base eight after a zero, or in base sixteen after a zero and the
letter x. -/
def number? : List Char → Option Nat
  | [] => none
  | '0' :: 'x' :: digits => ofDigits? 16 digits
  | '0' :: d :: digits => ofDigits? 8 (d :: digits)
  | digits => ofDigits? 10 digits

def parts (domain : String) : List String :=
  match (domain.splitOn ".").reverse with
  | "" :: rest => rest.reverse
  | all => all.reverse

/-- Whether a host name can only be an address: its last part is a number. -/
def isNumeric (domain : String) : Bool :=
  match (parts domain).getLast? with
  | some part =>
    (!part.isEmpty && part.toList.all Char.isDigit) || (number? part.toList).isSome
  | none => false

/-- The address that up to four numbers tell. The last one fills all bytes that are left. -/
def value? (domain : String) : Option Nat :=
  match (parts domain).mapM fun part ↦ number? part.toList with
  | none => none
  | some numbers =>
    let first := numbers.dropLast
    let last := numbers.getLastD 0
    if 4 < numbers.length ∨ first.any (255 < ·) ∨ UInt32.size >>> (8 * first.length) ≤ last then
      none
    else some (last + (first.zipIdx.map fun (n, i) ↦ n <<< (8 * (3 - i))).foldl (· + ·) 0)

def valueText (value : Nat) : String :=
  ".".intercalate ([24, 16, 8, 0].map fun shift ↦ toString (value >>> shift % 256))

end FaceDecode.Address
