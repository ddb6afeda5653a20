import FaceDecode.Picture.Canvas
import FaceDecode.Picture.Inflate

namespace FaceDecode.Gif

open Inflate (Bits)

/-- The runs that have words, and the run of the last word. -/
structure State where
  runs : Array ByteArray
  last : Option ByteArray := none

namespace State

/-- A run for each pixel. The next two words are marks and have none. -/
def start (depth : Nat) : State where
  runs := (Array.ofFn fun n : Fin (1 <<< depth) ↦ ⟨#[.ofNat n.val]⟩) ++ .replicate 2 .empty

def maxWord : Nat := 12

def wordSize (s : State) : Nat := min maxWord s.runs.size.log2.succ

/-- The run of a word and what is known after it. -/
def take? (s : State) (word : Nat) : Option (ByteArray × State) :=
  match s.last with
  | none => (s.runs[word]?).map fun run ↦ (run, { s with last := some run })
  | some last =>
    let next := last ++ (s.runs.getD word last).extract 0 1
    let runs := if s.runs.size < 1 <<< maxWord then s.runs.push next else s.runs
    (runs[word]?).map fun run ↦ (run, { runs, last := some run })

end State

/-- Reads runs up to a count of pixels. A word takes a bit at least. -/
def pixels? (depth count : Nat) : (fuel : Nat) → Bits → State → ByteArray → Option ByteArray
  | 0, _, _, _ => none
  | fuel + 1, bits, s, before =>
    if count ≤ before.size then some before
    else do
      let clear := 1 <<< depth
      let (word, bits) ← (bits.number s.wordSize).toOption
      if word = clear then pixels? depth count fuel bits (.start depth) before
      else if word = clear + 1 then none
      else
        let (run, s) ← s.take? word
        pixels? depth count fuel bits s (before ++ run)

/-- The data of the blocks from a place on up to an empty one, and the place after it. -/
def blocks? (bytes : ByteArray) : (fuel start : Nat) → (before : ByteArray) → Option (ByteArray × Nat)
  | 0, _, _ => none
  | fuel + 1, start, before =>
    let next := start + 1 + (byteAt bytes start).toNat
    if bytes.size < next then none
    else if next = start + 1 then some (before, next)
    else blocks? bytes fuel next (before ++ bytes.extract (start + 1) next)

def picture? (bytes : ByteArray) : (fuel start : Nat) → Option Nat
  | 0, _ => none
  | fuel + 1, start =>
    match byteAt bytes start with
    | 0x2c => some start
    | 0x21 => (blocks? bytes bytes.size (start + 2) .empty).bind fun (_, next) ↦ picture? bytes fuel next
    | _ => none

def paletteSize (flags : UInt8) : Nat := if flags < 128 then 0 else 3 * (2 <<< (flags &&& 7).toNat)

/-- The numbers of the rows of a picture in the order in which they come. -/
def rowOrder (isInterlaced : Bool) (height : Nat) : List Nat :=
  if isInterlaced then
    [(0, 8), (4, 8), (2, 4), (1, 2)].flatMap fun (top, down) ↦
      .range' top ((height - top + (down - 1)) / down) down
  else .range height

def decode? (bytes : ByteArray) : Option Canvas := do
  let mark := bytes.extract 0 6
  guard (mark == "GIF87a".toUTF8 || mark == "GIF89a".toUTF8)
  let common := 13
  let flags := byteAt bytes 10
  let width := lowNumber bytes 6 2
  let height := lowNumber bytes 8 2
  guard (0 < width ∧ 0 < height ∧ 4 * (width * height) ≤ Canvas.maxReadSize)
  let start ← picture? bytes bytes.size (common + paletteSize flags)
  let own := start + 10
  let ownFlags := byteAt bytes (start + 9)
  let (palette, flags) := if ownFlags < 128 then (common, flags) else (own, ownFlags)
  let size := paletteSize flags
  guard (0 < size)
  let left := lowNumber bytes (start + 1) 2
  let top := lowNumber bytes (start + 3) 2
  let columns := lowNumber bytes (start + 5) 2
  let rows := lowNumber bytes (start + 7) 2
  let data := own + paletteSize ownFlags
  let depth := (byteAt bytes data).toNat
  guard (0 < depth ∧ depth < State.maxWord)
  let (packed, _) ← blocks? bytes bytes.size (data + 1) .empty
  let bits : Bits := { bytes := packed }
  let pixels ← pixels? depth (columns * rows) (bits.left + 1) bits (.start depth) .empty
  let order := (rowOrder (ownFlags.toNat.testBit 6) rows).toArray
  let places := order.zipIdx.foldl (fun places (row, i) ↦ places.setIfInBounds row i)
    (Array.replicate rows 0)
  return .ofColors width height fun x y ↦
    if left ≤ x ∧ x < left + columns ∧ top ≤ y ∧ y < top + rows then
      let pixel := (byteAt pixels (places.getD (y - top) 0 * columns + (x - left))).toNat
      let entry := palette + 3 * pixel
      if 3 * pixel < size then ⟨byteAt bytes entry, byteAt bytes (entry + 1), byteAt bytes (entry + 2)⟩
      else Canvas.black
    else Canvas.black

end FaceDecode.Gif
