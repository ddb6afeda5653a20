import FaceDecode.Decimal.Read

namespace FaceDecode.Pnm

inductive Coding where
  | digits
  | bits
  | flags
  | words
  | bytes
deriving DecidableEq, Repr

structure Header where
  width : Nat
  height : Nat
  channels : Nat
  coding : Coding
  brightest : Nat := 1
  isWide : Bool := false

def isBlank (b : UInt8) : Bool := 9 ≤ b && b ≤ 13 || b == 32

def plain (bytes : List UInt8) : String := .ofList (bytes.map fun b ↦ .ofNat b.toNat)

/-- Reads a word, whose letters so far are `before`, and the blank after it. A comment goes up to the
end of its line and may interrupt a word. -/
def wordFrom? : (isComment : Bool) → (before input : List UInt8) → Option (String × List UInt8)
  | _, before, [] => if before.isEmpty then none else some (plain before.reverse, [])
  | true, before, b :: rest => wordFrom? (b != 10 && b != 13) before rest
  | false, before, b :: rest =>
    if b = '#'.toUInt8 then wordFrom? true before rest
    else if isBlank b then
      if before.isEmpty then wordFrom? false before rest else some (plain before.reverse, rest)
    else if b < 128 then wordFrom? false (b :: before) rest
    else none

def number? (input : List UInt8) : Option (Nat × List UInt8) := do
  let (word, rest) ← wordFrom? false [] input
  return ((← Read.word? word).toNat, rest)

def isWide? (brightest : Nat) : Option Bool :=
  if brightest = 0 ∨ UInt16.size ≤ brightest then none else some (UInt8.size ≤ brightest)

def flat? (coding : Coding) (input : List UInt8) : Option (Header × List UInt8) := do
  let (width, rest) ← number? input
  let (height, rest) ← number? rest
  return ({ width, height, channels := 1, coding }, rest)

def shaded? (coding : Coding) (channels : Nat) (input : List UInt8) :
    Option (Header × List UInt8) := do
  let (width, rest) ← number? input
  let (height, rest) ← number? rest
  let (brightest, rest) ← number? rest
  return ({ width, height, channels, coding, brightest, isWide := ← isWide? brightest }, rest)

structure Fields where
  width : Option Nat := none
  height : Option Nat := none
  depth : Option Nat := none
  brightest : Option Nat := none
  kind : Option String := none

namespace Fields

/-- The value of a field that must not have one yet. -/
def once? (field : Option Nat) (value : String) : Option (Option Nat) :=
  if field.isSome then none else (Read.word? value).map fun n ↦ some n.toNat

def take? (f : Fields) (name value : String) : Option Fields :=
  match name with
  | "WIDTH" => (once? f.width value).map fun n ↦ { f with width := n }
  | "HEIGHT" => (once? f.height value).map fun n ↦ { f with height := n }
  | "DEPTH" => (once? f.depth value).map fun n ↦ { f with depth := n }
  | "MAXVAL" => (once? f.brightest value).map fun n ↦ { f with brightest := n }
  | "TUPLTYPE" => some { f with kind := some ((f.kind.map (· ++ " ")).getD "" ++ value) }
  | _ => none

def read? : (fuel : Nat) → Fields → List UInt8 → Option (Fields × List UInt8)
  | 0, _, _ => none
  | fuel + 1, f, input =>
    let line := input.takeWhile (· != 10)
    let rest := input.drop (line.length + 1)
    if line.head? = some '#'.toUInt8 then
      if (String.fromUTF8? ⟨line.toArray⟩).isSome then read? fuel f rest else none
    else if line.all (· < 128) then
      let name := plain (line.takeWhile (!isBlank ·))
      if name = "ENDHDR" then some (f, rest)
      else
        let value := ((line.drop name.length).dropWhile isBlank).reverse.dropWhile isBlank
        (f.take? name (plain value.reverse)).bind (read? fuel · rest)
    else none

def header? (f : Fields) : Option Header := do
  let width ← f.width
  let height ← f.height
  let depth ← f.depth
  let brightest ← f.brightest
  guard (brightest ≠ 0)
  let shades : Header := { width, height, channels := depth, coding := .bytes, brightest }
  match f.kind, depth with
  | none, 1 | none, 3 => return shades
  | some "BLACKANDWHITE", 1 =>
    guard (brightest = 1)
    return { shades with coding := .flags }
  | some "GRAYSCALE", 1 | some "RGB", 3 => return { shades with isWide := ← isWide? brightest }
  | _, _ => none

end Fields

def named? (input : List UInt8) : Option (Header × List UInt8) := do
  guard (input.head? = some 10)
  let (fields, rest) ← Fields.read? input.length {} (input.drop 1)
  return (← fields.header?, rest)

def header? : List UInt8 → Option (Header × List UInt8)
  | letter :: digit :: rest =>
    match plain [letter, digit] with
    | "P1" => flat? .digits rest
    | "P2" => shaded? .words 1 rest
    | "P3" => shaded? .words 3 rest
    | "P4" => flat? .bits rest
    | "P5" => shaded? .bytes 1 rest
    | "P6" => shaded? .bytes 3 rest
    | "P7" => named? rest
    | _ => none
  | _ => none

end FaceDecode.Pnm
