namespace FaceDecode.Punycode

def isBasic (c : Char) : Bool := c.toNat < 128

def alphabet : List Char := "abcdefghijklmnopqrstuvwxyz0123456789".toList

/-- A digit below this number is the last one of its number. -/
def bound (bias position : Nat) : Nat := min (max (36 * (position + 1) - bias) 1) 26

theorem one_le_bound (bias position : Nat) : 1 ≤ bound bias position := by
  unfold bound; omega

def shrink (n : Nat) : Nat × Nat :=
  if 455 < n then
    let (n, digits) := shrink (n / 35)
    (n, digits + 1)
  else (n, 0)
termination_by n
decreasing_by exact Nat.div_lt_self (by omega) (by decide)

/-- The bias after a number that brought the text to so many characters. -/
def nextBias (isFirst : Bool) (number characters : Nat) : Nat :=
  let n := if isFirst then number / 700 else number / 2
  let (n, digits) := shrink (n + n / characters)
  36 * digits + 36 * n / (n + 38)

def digits (bias position n : Nat) : List Char :=
  let t := bound bias position
  if n < t then [alphabet.getD n 'a']
  else alphabet.getD (t + (n - t) % (36 - t)) 'a' :: digits bias (position + 1) ((n - t) / (36 - t))
termination_by n
decreasing_by
  have := one_le_bound bias position
  exact Nat.lt_of_le_of_lt (Nat.div_le_self _ _) (by omega)

structure Writing where
  out : List Char
  number : Nat := 0
  bias : Nat := 72
  characters : Nat
  isFirst : Bool := true

/-- Passes one character on the way to the places of character `n`. -/
def Writing.pass (n : Nat) (w : Writing) (c : Char) : Writing :=
  if c.toNat < n then { w with number := w.number + 1 }
  else if c.toNat = n then {
    out := w.out ++ digits w.bias 0 w.number
    bias := nextBias w.isFirst w.number (w.characters + 1)
    characters := w.characters + 1
    isFirst := false }
  else w

/-- Writes the places of character `n`; all up to `before` are written. -/
def Writing.place (cs : List Char) (before n : Nat) (w : Writing) : Writing :=
  let w := cs.foldl (pass n) { w with number := w.number + (n - before) * (w.characters + 1) }
  { w with number := w.number + 1 }

def encode (cs : List Char) : List Char :=
  let basic := cs.filter isBasic
  let others := ((cs.filter (!isBasic ·)).map Char.toNat).mergeSort.eraseDups
  let start : Writing :=
    { out := if basic.isEmpty then [] else basic ++ ['-'], characters := basic.length }
  (others.foldl (fun (w, before) n ↦ (w.place cs before n, n + 1)) (start, 128)).1.out

def number? (bias : Nat) : (position weight : Nat) → List Char → Option (Nat × List Char)
  | _, _, [] => none
  | position, weight, c :: cs =>
    match alphabet.idxOf? c with
    | none => none
    | some d =>
      let t := bound bias position
      if d < t then some (d * weight, cs)
      else (number? bias (position + 1) (weight * (36 - t)) cs).map fun (n, rest) ↦
        (d * weight + n, rest)

theorem length_of_number? {bias position weight n : Nat} {cs rest : List Char}
    (h : number? bias position weight cs = some (n, rest)) : rest.length < cs.length := by
  induction cs generalizing position weight n rest with
  | nil => simp [number?] at h
  | cons c cs ih =>
    rw [number?] at h
    split at h
    · simp at h
    · dsimp only at h
      split at h
      · simp only [Option.some.injEq, Prod.mk.injEq] at h
        simp [← h.2]
      · obtain ⟨⟨m, r⟩, hr, he⟩ := Option.map_eq_some_iff.1 h
        simp only [Prod.mk.injEq] at he
        have := ih hr
        simp only [List.length_cons, ← he.2]
        omega

/-- Puts in the characters that numbers tell, from character `n` and place `place` on. -/
def insertAll (out : List Char) (bias n place : Nat) (isFirst : Bool) (cs : List Char) :
    Option (List Char) :=
  if cs.isEmpty then some out
  else
    match h : number? bias 0 1 cs with
    | none => none
    | some (number, rest) =>
      let count := out.length + 1
      let n := n + (place + number) / count
      let place := (place + number) % count
      if n.isValidChar then
        insertAll (out.insertIdx place (.ofNat n)) (nextBias isFirst number count) n (place + 1)
          false rest
      else none
termination_by cs.length
decreasing_by exact length_of_number? h

/-- The text that letters, digits and hyphens stand for; all up to the last hyphen stand for
themselves. -/
def decode? (cs : List Char) : Option (List Char) :=
  let (tail, head) := cs.reverse.span (· ≠ '-')
  let basic := (head.drop 1).reverse
  if basic.all isBasic then insertAll basic 72 128 0 true tail.reverse else none

end FaceDecode.Punycode
