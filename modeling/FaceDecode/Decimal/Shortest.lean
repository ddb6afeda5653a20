import FaceDecode.Number.Convert

namespace FaceDecode

structure Decimal where
  digits : Nat
  exponent : Int
deriving DecidableEq, Repr

namespace Decimal

inductive Tie where
  | up
  | toEven
deriving DecidableEq, Repr

def binaryRatio (n : Nat) (e : Int) : Nat × Nat := (n * Nat.pow 2 e.toNat, Nat.pow 2 (-e).toNat)

/-- The values that read back as one number: all between `low` and `high`, the ends included where
`closed` holds, as multiples of `1 / unit`. The number itself is `value`. -/
structure Interval where
  low : Nat
  value : Nat
  high : Nat
  unit : Nat
  closed : Bool

/-- The values nearest to the number with significand `m` and exponent `e`. Below a power of two
the numbers lie twice as close. -/
def Interval.around (m : Nat) (e : Int) : Interval :=
  let step := Nat.pow 2 (e - 2).toNat
  { low := (if m = Nat.pow 2 23 ∧ -149 < e then 4 * m - 1 else 4 * m - 2) * step
    value := 4 * m * step
    high := (4 * m + 2) * step
    unit := Nat.pow 2 (2 - e).toNat
    closed := m % 2 == 0 }

def Interval.holds (i : Interval) (n grid : Nat) : Bool :=
  let x := n * grid
  if i.closed then i.low ≤ x && x ≤ i.high else i.low < x && x < i.high

def Interval.onGrid? (i : Interval) (tie : Tie) (exponent : Int) : Option Decimal :=
  let up := Nat.pow 10 (-exponent).toNat
  let i := { i with low := i.low * up, value := i.value * up, high := i.high * up }
  let grid := i.unit * Nat.pow 10 exponent.toNat
  let below := i.value / grid
  let rest := i.value % grid
  match i.holds below grid, i.holds (below + 1) grid with
  | false, false => none
  | true, false => some ⟨below, exponent⟩
  | false, true => some ⟨below + 1, exponent⟩
  | true, true =>
    let next := match compare (2 * rest) grid with
      | .lt => below
      | .gt => below + 1
      | .eq => match tie with
        | .up => below + 1
        | .toEven => below + below % 2
    some ⟨next, exponent⟩

/-- The coarsest decimal that reads back as the number with significand `m` and exponent `e`, and of
those the nearest one. Every single precision number has one with an exponent from -45 to 39. -/
def shortest (tie : Tie) (m : Nat) (e : Int) : Decimal :=
  let i := Interval.around m e
  ((List.range 85).findSome? fun (k : Nat) ↦ i.onGrid? tie (39 - k)).getD ⟨0, 0⟩

def roundHalfEven (num den : Nat) : Nat :=
  let below := num / den
  match compare (2 * (num % den)) den with
  | .lt => below
  | .gt => below + 1
  | .eq => below + below % 2

def fixed (places : Nat) (m : Nat) (e : Int) : Decimal :=
  let (num, den) := binaryRatio m e
  ⟨roundHalfEven (num * Nat.pow 10 places) den, -places⟩

end Decimal

end FaceDecode
