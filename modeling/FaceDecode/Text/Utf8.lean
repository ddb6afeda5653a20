namespace FaceDecode.Utf8

abbrev Bounds := UInt8 × UInt8

/-- Where a following byte lies unless the lead byte says otherwise. -/
def tail : Bounds := (0x80, 0xbf)

/-- The bits that a lead byte gives and the bounds of the bytes after it. -/
def lead? (b : UInt8) : Option (Nat × List Bounds) :=
  if b < 0x80 then some (b.toNat, [])
  else if b < 0xc2 then none
  else if b < 0xe0 then some (b.toNat - 0xc0, [tail])
  else if b = 0xe0 then some (0, [(0xa0, 0xbf), tail])
  else if b = 0xed then some (0xd, [(0x80, 0x9f), tail])
  else if b < 0xf0 then some (b.toNat - 0xe0, [tail, tail])
  else if b = 0xf0 then some (0, [(0x90, 0xbf), tail, tail])
  else if b < 0xf4 then some (b.toNat - 0xf0, [tail, tail, tail])
  else if b = 0xf4 then some (4, [(0x80, 0x8f), tail, tail])
  else none

def follow : List Bounds → Nat → List UInt8 → Option Nat × List UInt8
  | [], value, bytes => (some value, bytes)
  | _ :: _, _, [] => (none, [])
  | (low, high) :: rest, value, b :: bytes =>
    if low ≤ b ∧ b ≤ high then follow rest (value * 64 + (b.toNat - 0x80)) bytes
    else (none, b :: bytes)

theorem length_follow_le (bounds : List Bounds) (value : Nat) (bytes : List UInt8) :
    (follow bounds value bytes).2.length ≤ bytes.length := by
  induction bounds generalizing value bytes with
  | nil => exact Nat.le_refl _
  | cons b rest ih =>
    cases bytes with
    | nil => exact Nat.le_refl _
    | cons c bytes =>
      simp only [follow]
      split
      · exact Nat.le_succ_of_le (ih _ _)
      · exact Nat.le_refl _

def characters : List UInt8 → List (Option Char)
  | [] => []
  | b :: bytes =>
    match lead? b with
    | none => none :: characters bytes
    | some (value, bounds) =>
      (follow bounds value bytes).1.map Char.ofNat :: characters (follow bounds value bytes).2
termination_by bytes => bytes.length
decreasing_by
  · simp
  · exact Nat.lt_succ_of_le (length_follow_le _ _ _)

def decode? (bytes : List UInt8) : Option String :=
  ((characters bytes).mapM id).map String.ofList

def decodeLossy (bytes : List UInt8) : String :=
  String.ofList ((characters bytes).map (·.getD '\ufffd'))

def encode (cs : List Char) : List UInt8 := cs.flatMap String.utf8EncodeChar

end FaceDecode.Utf8
