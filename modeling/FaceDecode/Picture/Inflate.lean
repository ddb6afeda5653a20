import FaceDecode.Picture.Bytes

namespace FaceDecode.Inflate

inductive Stop where
  | short
  | corrupt
deriving DecidableEq, Repr

structure Bits where
  bytes : ByteArray
  position : Nat := 0

namespace Bits

def left (s : Bits) : Nat := 8 * s.bytes.size - s.position

def next (s : Bits) : Except Stop (Nat × Bits) :=
  if h : s.position / 8 < s.bytes.size then
    let byte := (s.bytes.get (s.position / 8) h).toNat
    .ok ((byte >>> (s.position % 8)) % 2, { s with position := s.position + 1 })
  else .error .short

def number (s : Bits) : (count : Nat) → Except Stop (Nat × Bits)
  | 0 => .ok (0, s)
  | count + 1 => do
    let (low, s) ← s.next
    let (high, s) ← s.number count
    return (low + 2 * high, s)

def align (s : Bits) : Bits := { s with position := (s.position + 7) / 8 * 8 }

end Bits

def maxLength : Nat := 15

/-- A prefix code: how many words of each length there are, and the symbols in order of the words. -/
structure Code where
  counts : Array Nat
  symbols : Array Nat

namespace Code

def ofLengths (lengths : List Nat) : Code where
  counts := ((List.range (maxLength + 1)).map fun n ↦
    if n = 0 then 0 else lengths.count n).toArray
  symbols := ((List.range' 1 maxLength).flatMap fun n ↦
    (lengths.zipIdx.filter (·.1 == n)).map (·.2)).toArray

def longest (c : Code) : Nat :=
  (List.range c.counts.size).foldl (fun n length ↦ if c.counts.getD length 0 = 0 then n else length) 0

def isComplete (c : Code) : Bool :=
  (List.range' 1 maxLength).foldl (fun n length ↦
    n + c.counts.getD length 0 <<< (maxLength - length)) 0 == 1 <<< maxLength

/-- Whether there is at most one word, and that of one bit. -/
def isTrivial (c : Code) : Bool := c.symbols.size == 0 || (c.symbols.size == 1 && c.counts.getD 1 0 == 1)

/-- Reads one word of at most `rest` more bits. `word` holds the bits so far, `first` the first word of
this length, and `before` the count of shorter words. -/
def readFrom (c : Code) (s : Bits) :
    (rest length word first before : Nat) → Except Stop (Nat × Bits)
  | 0, _, _, _, _ => .error .corrupt
  | rest + 1, length, word, first, before => do
    let (bit, s) ← s.next
    let word := 2 * word + bit
    let first := 2 * first
    let count := c.counts.getD length 0
    if word < first + count then
      match c.symbols[before + (word - first)]? with
      | some symbol => return (symbol, s)
      | none => throw .corrupt
    else readFrom c s rest (length + 1) word (first + count) (before + count)

def read (c : Code) (s : Bits) : Except Stop (Nat × Bits) := c.readFrom s c.longest 1 0 0 0

def fixedLetters : Code := ofLengths
  (.replicate 144 8 ++ .replicate 112 9 ++ .replicate 24 7 ++ .replicate 8 8)

def fixedDistances : Code := ofLengths (.replicate 32 5)

end Code

/-- The least value and the extra bits of each symbol for a length. -/
def lengthTable : Array (Nat × Nat) := #[
  (3, 0), (4, 0), (5, 0), (6, 0), (7, 0), (8, 0), (9, 0), (10, 0), (11, 1), (13, 1), (15, 1),
  (17, 1), (19, 2), (23, 2), (27, 2), (31, 2), (35, 3), (43, 3), (51, 3), (59, 3), (67, 4), (83, 4),
  (99, 4), (115, 4), (131, 5), (163, 5), (195, 5), (227, 5), (258, 0)]

def distanceTable : Array (Nat × Nat) := #[
  (1, 0), (2, 0), (3, 0), (4, 0), (5, 1), (7, 1), (9, 2), (13, 2), (17, 3), (25, 3), (33, 4),
  (49, 4), (65, 5), (97, 5), (129, 6), (193, 6), (257, 7), (385, 7), (513, 8), (769, 8), (1025, 9),
  (1537, 9), (2049, 10), (3073, 10), (4097, 11), (6145, 11), (8193, 12), (12289, 12), (16385, 13),
  (24577, 13)]

/-- A value out of a table and the extra bits after its symbol. -/
def tabled (table : Array (Nat × Nat)) (symbol : Nat) (s : Bits) : Except Stop (Nat × Bits) :=
  match table[symbol]? with
  | none => .error .corrupt
  | some (least, extra) => do
    let (more, s) ← s.number extra
    return (least + more, s)

def span (distances : Code) (symbol : Nat) (s : Bits) : Except Stop (Nat × Nat × Bits) := do
  let (length, s) ← tabled lengthTable (symbol - 257) s
  let (symbol, s) ← distances.read s
  let (distance, s) ← tabled distanceTable symbol s
  return (length, distance, s)

/-- Copies bytes from a distance back, which may run into the copy itself. -/
def copy (distance : Nat) : (count : Nat) → ByteArray → ByteArray
  | 0, out => out
  | count + 1, out => copy distance count (out.push (byteAt out (out.size - distance)))

abbrev Piece := Except Stop Bits × ByteArray

def symbols (letters distances : Code) : (fuel : Nat) → Bits → ByteArray → Piece
  | 0, _, out => (.error .corrupt, out)
  | fuel + 1, s, out =>
    match letters.read s with
    | .error e => (.error e, out)
    | .ok (symbol, s) =>
      if symbol < 256 then symbols letters distances fuel s (out.push (.ofNat symbol))
      else if symbol = 256 then (.ok s, out)
      else
        match span distances symbol s with
        | .error e => (.error e, out)
        | .ok (length, distance, s) =>
          if out.size < distance then (.error .corrupt, out)
          else symbols letters distances fuel s (copy distance length out)

def lengthOrder : List Nat := [16, 17, 18, 0, 8, 7, 9, 6, 10, 5, 11, 4, 12, 3, 13, 2, 14, 1, 15]

def smallNumbers : (count : Nat) → Bits → Except Stop (List Nat × Bits)
  | 0, s => .ok ([], s)
  | count + 1, s => do
    let (n, s) ← s.number 3
    let (ns, s) ← smallNumbers count s
    return (n :: ns, s)

/-- What the symbol of a length says: the length, the least count and the extra bits of the count. -/
def repeated (before : Array Nat) (symbol : Nat) : Except Stop (Nat × Nat × Nat) :=
  match symbol with
  | 16 =>
    match before.back? with
    | some n => .ok (n, 3, 2)
    | none => .error .corrupt
  | 17 => .ok (0, 3, 3)
  | 18 => .ok (0, 11, 7)
  | n => .ok (n, 1, 0)

def lengths (code : Code) (count : Nat) :
    (fuel : Nat) → Array Nat → Bits → Except Stop (List Nat × Bits)
  | 0, _, _ => .error .corrupt
  | fuel + 1, before, s =>
    if before.size = count then .ok (before.toList, s)
    else if count < before.size then .error .corrupt
    else do
      let (symbol, s) ← code.read s
      let (n, least, extra) ← repeated before symbol
      let (more, s) ← s.number extra
      lengths code count fuel (before ++ .replicate (least + more) n) s

def require (holds : Bool) : Except Stop Unit := if holds then .ok () else .error .corrupt

/-- The two codes that a block gives. A code must be complete, but the one for distances may also
have a single word or none. -/
def codes (s : Bits) : Except Stop ((Code × Code) × Bits) := do
  let (letters, s) ← s.number 5
  let (distances, s) ← s.number 5
  let (small, s) ← s.number 4
  require (letters + 257 ≤ 286 && distances + 1 ≤ 30)
  let (values, s) ← smallNumbers (small + 4) s
  let given := lengthOrder.zip values
  let code := Code.ofLengths ((List.range 19).map fun n ↦ (given.lookup n).getD 0)
  require code.isComplete
  let count := letters + 257
  let (all, s) ← lengths code (count + distances + 1) (s.left + 1) #[] s
  let letters := Code.ofLengths (all.take count)
  let distances := Code.ofLengths (all.drop count)
  require (letters.isComplete && letters.symbols.contains 256)
  require (distances.isComplete || distances.isTrivial)
  return ((letters, distances), s)

def stored (s : Bits) (out : ByteArray) : Piece :=
  let size : Except Stop (Nat × Bits) := do
    let (size, s) ← s.align.number 16
    let (check, s) ← s.number 16
    require (size + check == UInt16.size - 1)
    return (size, s)
  match size with
  | .error e => (.error e, out)
  | .ok (size, s) =>
    let start := s.position / 8
    let out := out ++ s.bytes.extract start (start + size)
    if start + size ≤ s.bytes.size then (.ok { s with position := s.position + 8 * size }, out)
    else (.error .short, out)

def blockHead (s : Bits) : Except Stop (Nat × Nat × Bits) := do
  let (last, s) ← s.number 1
  let (kind, s) ← s.number 2
  return (last, kind, s)

def blockBody (kind : Nat) (s : Bits) (out : ByteArray) : Piece :=
  match kind with
  | 0 => stored s out
  | 1 => symbols .fixedLetters .fixedDistances (s.left + 1) s out
  | 2 =>
    match codes s with
    | .error e => (.error e, out)
    | .ok ((letters, distances), s) => symbols letters distances (s.left + 1) s out
  | _ => (.error .corrupt, out)

def blocks : (fuel : Nat) → Bits → ByteArray → Piece
  | 0, _, out => (.error .corrupt, out)
  | fuel + 1, s, out =>
    match blockHead s with
    | .error e => (.error e, out)
    | .ok (last, kind, s) =>
      match blockBody kind s out with
      | (.error e, out) => (.error e, out)
      | (.ok s, out) => if last = 1 then (.ok s, out) else blocks fuel s out

def decode? (bytes : ByteArray) : Option ByteArray :=
  let s : Bits := { bytes }
  match blocks (s.left + 1) s .empty with
  | (.error .corrupt, _) => none
  | (_, out) => some out

def twoBytes (n : Nat) : List UInt8 := [.ofNat n, .ofNat (n / 256)]

def blockSize : Nat := UInt16.size - 1

/-- Stores the bytes from a place on in blocks; `rest` bounds their number. -/
def storeFrom (bytes : ByteArray) : (rest start : Nat) → ByteArray → ByteArray
  | 0, _, out => out
  | rest + 1, start, out =>
    let stop := min (start + blockSize) bytes.size
    let size := stop - start
    let last := bytes.size ≤ stop
    let head := (if last then 1 else 0) :: twoBytes size ++ twoBytes (blockSize - size)
    let out := out ++ ⟨head.toArray⟩ ++ bytes.extract start stop
    if last then out else storeFrom bytes rest stop out

def store (bytes : ByteArray) : ByteArray :=
  storeFrom bytes (bytes.size / blockSize + 1) 0 .empty

end FaceDecode.Inflate
