import FaceDecode.Text.Digits

namespace FaceDecode

structure UtcTime where
  year : Int
  month : Nat
  day : Nat
  hour : Nat
  minute : Nat
  second : Nat
  nanosecond : Nat := 0
  month_le : month ≤ 12 := by decide
  day_le : day ≤ 31 := by decide
  hour_lt : hour < 24 := by decide
  minute_lt : minute < 60 := by decide
  second_lt : second < 60 := by decide

namespace UtcTime

def twoDigits (n : Nat) : String := .ofList (Digits.padded 10 2 n)

def yearText (year : Int) : String :=
  if 0 ≤ year ∧ year ≤ 9999 then .ofList (Digits.padded 10 4 year.toNat)
  else
    let digits := toString year.natAbs
    let zeros := String.ofList (.replicate (4 - digits.length) '0')
    (if year < 0 then "-" else "+") ++ zeros ++ digits

def fractionText (nanosecond : Nat) : String :=
  if nanosecond = 0 then ""
  else if nanosecond % 1000000 = 0 then
    "." ++ .ofList (Digits.padded 10 3 (nanosecond / 1000000))
  else if nanosecond % 1000 = 0 then
    "." ++ .ofList (Digits.padded 10 6 (nanosecond / 1000))
  else "." ++ .ofList (Digits.padded 10 9 nanosecond)

def text (t : UtcTime) : String :=
  yearText t.year ++ "-" ++ twoDigits t.month ++ "-" ++ twoDigits t.day ++ "T" ++
    twoDigits t.hour ++ ":" ++ twoDigits t.minute ++ ":" ++ twoDigits t.second ++
    fractionText t.nanosecond ++ "+00:00"

end UtcTime

end FaceDecode
