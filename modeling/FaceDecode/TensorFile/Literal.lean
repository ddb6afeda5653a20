import FaceDecode.Decimal.Read
import FaceDecode.Text.Digits

namespace FaceDecode

inductive Literal where
  | none
  | flag (value : Bool)
  | integer (value : Int)
  /-- A number with a fraction, an exponent or an imaginary part; its value is not kept. -/
  | real
  | text (value : String)
  | bytes (value : String)
  | tuple (items : List Literal)
  | list (items : List Literal)
  | set (items : List Literal)
  | table (entries : List (Literal × Literal))

namespace Literal

open Read (isDigit digitsValue)

abbrev Reading (α : Type) := Option (α × List Char)

def isBlank (c : Char) : Bool := c == ' ' || c == '\t' || c == '\x0c'

def skipBlanks (cs : List Char) : List Char := cs.dropWhile isBlank

def skip? (mark : Char) : List Char → Option (List Char)
  | c :: cs => if c = mark then some (skipBlanks cs) else Option.none
  | [] => Option.none

def word? (word : String) (cs : List Char) : Option (List Char) :=
  if word.toList.isPrefixOf cs then some (cs.drop word.length) else Option.none

/-- What stands between quotation marks: characters, or bytes that are written as the first 128
characters. -/
inductive Quoting where
  | text
  | bytes
deriving DecidableEq, Repr

def Quoting.allows : Quoting → Nat → Bool
  | .text, n => n.isValidChar
  | .bytes, n => n < 256

def Quoting.code? (q : Quoting) (n : Nat) (cs : List Char) : Reading (List Char) :=
  if q.allows n then some ([Char.ofNat n], cs) else Option.none

def isOctal (c : Char) : Bool := '0' ≤ c && c ≤ '7'

/-- A code of so many digits in base sixteen after a letter. Where the digits do not follow, the
backslash and the letter stand for themselves. -/
def coded? (q : Quoting) (letter : Char) (count : Nat) (cs : List Char) : Reading (List Char) :=
  let digits := cs.take count
  match digits.mapM Digits.hexValue? with
  | some values =>
    if values.length = count then
      q.code? (values.foldl (fun n d ↦ 16 * n + d) 0) (cs.drop count)
    else some (['\\', letter], cs)
  | Option.none => some (['\\', letter], cs)

/-- What follows a backslash: nothing for an escaped line break, a character for a letter or a code,
and else the backslash and the character. Characters cannot be given by name. -/
def escape? (q : Quoting) : List Char → Reading (List Char)
  | '\r' :: '\n' :: cs | '\n' :: cs | '\r' :: cs => some ([], cs)
  | '\\' :: cs => some (['\\'], cs)
  | '\x27' :: cs => some (['\x27'], cs)
  | '"' :: cs => some (['"'], cs)
  | 'a' :: cs => some (['\x07'], cs)
  | 'b' :: cs => some (['\x08'], cs)
  | 'f' :: cs => some (['\x0c'], cs)
  | 'n' :: cs => some (['\n'], cs)
  | 'r' :: cs => some (['\r'], cs)
  | 't' :: cs => some (['\t'], cs)
  | 'v' :: cs => some (['\x0b'], cs)
  | 'x' :: cs => coded? q 'x' 2 cs
  | c :: cs =>
    let digits := ((c :: cs).take 3).takeWhile isOctal
    if !digits.isEmpty then
      q.code? (digits.foldl (fun n c ↦ 8 * n + Read.digitValue c) 0) ((c :: cs).drop digits.length)
    else
      match q, c with
      | .bytes, _ => if c.toNat < 128 then some (['\\', c], cs) else Option.none
      | .text, 'u' => coded? q c 4 cs
      | .text, 'U' => coded? q c 8 cs
      | .text, 'N' =>
        if cs.head? = some '\x7b' ∧ cs.contains '\x7d' then Option.none else some (['\\', c], cs)
      | .text, _ => some (['\\', c], cs)
  | [] => Option.none

def quoted? (q : Quoting) (mark : Char) : (fuel : Nat) → List Char → Reading (List Char)
  | 0, _ => Option.none
  | _, [] => Option.none
  | fuel + 1, c :: cs =>
    if c = mark then some ([], cs)
    else if c = '\n' ∨ c = '\r' then Option.none
    else if c = '\\' then
      (escape? q cs).bind fun (inside, cs) ↦
        (quoted? q mark fuel cs).map fun (rest, cs) ↦ (inside ++ rest, cs)
    else if q = .bytes ∧ 128 ≤ c.toNat then Option.none
    else (quoted? q mark fuel cs).map fun (rest, cs) ↦ (c :: rest, cs)

def anyQuoted? (q : Quoting) : List Char → Reading String
  | c :: cs =>
    if c = '\x27' ∨ c = '"' then
      (quoted? q c (cs.length + 1) cs).map fun (inside, cs) ↦ (String.ofList inside, cs)
    else Option.none
  | [] => Option.none

def digitRun? (isPart : Char → Bool) (cs : List Char) : Reading (List Char) :=
  let run := cs.takeWhile fun c ↦ isPart c || c == '_'
  let digits := run.filter (· ≠ '_')
  let twoInRow := (run.zip (run.drop 1)).any fun (a, b) ↦ a == '_' && b == '_'
  if digits.isEmpty || run.head? == some '_' || run.getLast? == some '_' || twoInRow then Option.none
  else some (digits, cs.drop run.length)

def based? (base : Nat) (isPart : Char → Bool) (cs : List Char) : Reading Literal :=
  let cs := match cs with
    | '_' :: rest => rest
    | cs => cs
  (digitRun? isPart cs).bind fun (digits, cs) ↦
    (digits.mapM Digits.hexValue?).map fun values ↦
      (.integer (values.foldl (fun n d ↦ base * n + d) 0 : Nat), cs)

def exponent (cs : List Char) : Option (List Char) :=
  match cs with
  | c :: rest =>
    if c = 'e' ∨ c = 'E' then
      let rest := match rest with
        | '+' :: rest | '-' :: rest => rest
        | rest => rest
      (digitRun? isDigit rest).map (·.2)
    else Option.none
  | [] => Option.none

/-- Reads on after the digits before a point: fraction, exponent and imaginary mark. -/
def decimal? (whole : List Char) (cs : List Char) : Reading Literal :=
  let (hasPoint, fraction, cs) := match cs with
    | '.' :: rest =>
      match digitRun? isDigit rest with
      | some (digits, rest) => (true, digits, rest)
      | Option.none => (true, [], rest)
    | cs => (false, [], cs)
  if whole.isEmpty && fraction.isEmpty then Option.none
  else
    let (hasExponent, cs) := match exponent cs with
      | some rest => (true, rest)
      | Option.none => (false, cs)
    match cs with
    | 'j' :: rest | 'J' :: rest => some (.real, rest)
    | _ =>
      if hasPoint || hasExponent then some (.real, cs)
      else some (.integer (digitsValue whole : Nat), cs)

def unsigned? : List Char → Reading Literal
  | '0' :: 'x' :: cs | '0' :: 'X' :: cs => based? 16 (Digits.hexValue? · |>.isSome) cs
  | '0' :: 'o' :: cs | '0' :: 'O' :: cs => based? 8 isOctal cs
  | '0' :: 'b' :: cs | '0' :: 'B' :: cs => based? 2 (fun c ↦ c == '0' || c == '1') cs
  | cs =>
    match digitRun? isDigit cs with
    | some (whole, cs) => decimal? whole cs
    | Option.none => decimal? [] cs

def signs : List Char → Bool × List Char
  | [] => (false, [])
  | c :: cs =>
    if c = '-' then let (negative, rest) := signs cs; (!negative, rest)
    else if c = '+' ∨ isBlank c then signs cs
    else (false, c :: cs)

def plus (negative : Bool) : Literal → Literal → Literal
  | integer a, integer b => .integer (if negative then a - b else a + b)
  | _, _ => .real

def sum? (sum : Literal) : (fuel : Nat) → List Char → Reading Literal
  | 0, _ => Option.none
  | fuel + 1, cs =>
    let (negative, digits) := signs cs
    (unsigned? digits).bind fun (n, rest) ↦
      let total := plus negative sum n
      match skipBlanks rest with
      | next@('+' :: _) | next@('-' :: _) => sum? total fuel next
      | _ => some (total, rest)

mutual

def value? : (fuel : Nat) → List Char → Reading Literal
  | 0, _ => Option.none
  | fuel + 1, cs =>
    let plain : Reading Literal := match cs with
      | '(' :: rest => (items? fuel ')' [] (skipBlanks rest)).bind fun (items, comma, rest) ↦
        if items.length = 1 ∧ ¬ comma then Option.none else some (.tuple items, rest)
      | '[' :: rest => (items? fuel ']' [] (skipBlanks rest)).map fun (items, _, rest) ↦
        (.list items, rest)
      | '\x7b' :: rest => braces? fuel (skipBlanks rest)
      | 'b' :: rest | 'B' :: rest => (anyQuoted? .bytes rest).map fun (s, rest) ↦ (.bytes s, rest)
      | '\x27' :: _ | '"' :: _ => (anyQuoted? .text cs).map fun (s, rest) ↦ (.text s, rest)
      | _ =>
        match word? "True" cs, word? "False" cs, word? "None" cs with
        | some rest, _, _ => some (.flag true, rest)
        | _, some rest, _ => some (.flag false, rest)
        | _, _, some rest => some (.none, rest)
        | _, _, _ => sum? (.integer 0) (cs.length + 1) cs
    plain.map fun (v, rest) ↦ (v, skipBlanks rest)

/-- The values up to a closing mark, and whether a comma stands before it. -/
def items? : (fuel : Nat) → Char → List Literal → List Char →
    Option (List Literal × Bool × List Char)
  | 0, _, _, _ => Option.none
  | fuel + 1, mark, before, cs =>
    match skip? mark cs with
    | some rest => some (before.reverse, !before.isEmpty, rest)
    | Option.none => (value? fuel cs).bind fun (v, rest) ↦ moreItems? fuel mark (v :: before) rest

def moreItems? : (fuel : Nat) → Char → List Literal → List Char →
    Option (List Literal × Bool × List Char)
  | 0, _, _, _ => Option.none
  | fuel + 1, mark, before, cs =>
    match skip? ',' cs with
    | some rest => items? fuel mark before rest
    | Option.none => (skip? mark cs).map fun rest ↦ (before.reverse, false, rest)

def braces? : (fuel : Nat) → List Char → Reading Literal
  | 0, _ => Option.none
  | fuel + 1, cs =>
    match skip? '\x7d' cs with
    | some rest => some (.table [], rest)
    | Option.none => (value? fuel cs).bind fun (first, rest) ↦
      match skip? ':' rest with
      | some rest => entry? fuel [] first rest
      | Option.none => (moreItems? fuel '\x7d' [first] rest).map fun (items, _, rest) ↦
        (.set items, rest)

def entry? : (fuel : Nat) → List (Literal × Literal) → Literal → List Char → Reading Literal
  | 0, _, _, _ => Option.none
  | fuel + 1, before, key, cs =>
    (value? fuel cs).bind fun (v, rest) ↦
      let entries := (key, v) :: before
      match skip? ',' rest with
      | some rest =>
        match skip? '\x7d' rest with
        | some rest => some (.table entries.reverse, rest)
        | Option.none => (value? fuel rest).bind fun (next, rest) ↦
          (skip? ':' rest).bind fun rest ↦ entry? fuel entries next rest
      | Option.none => (skip? '\x7d' rest).map fun rest ↦ (.table entries.reverse, rest)

end

/-- The one literal that a text holds. Of two steps one takes a character, so the length of the text
bounds their number. -/
def read? (text : String) : Option Literal :=
  let cs := skipBlanks text.toList
  match value? (3 * cs.length + 3) cs with
  | some (v, []) => some v
  | _ => Option.none

end Literal

end FaceDecode
