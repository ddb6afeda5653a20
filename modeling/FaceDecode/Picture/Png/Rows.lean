import FaceDecode.Picture.Png.Header

namespace FaceDecode.Png

/-- Of three bytes the one nearest to `left + above - corner`, the first of equals. -/
def nearest (left above corner : UInt8) : UInt8 :=
  let target : Int := left.toNat + above.toNat - corner.toNat
  let far (b : UInt8) : Nat := (target - b.toNat).natAbs
  if far left ≤ far above ∧ far left ≤ far corner then left
  else if far above ≤ far corner then above else corner

def predict? (filter : UInt8) (left above corner : UInt8) : Option UInt8 :=
  match filter with
  | 0 => some 0
  | 1 => some left
  | 2 => some above
  | 3 => some (.ofNat ((left.toNat + above.toNat) / 2))
  | 4 => some (nearest left above corner)
  | _ => none

def unfilter? (step : Nat) (filter : UInt8) (above row : ByteArray) : Option ByteArray :=
  (List.range row.size).foldlM
    (fun out i ↦
      let before (b : ByteArray) : UInt8 := if i < step then 0 else byteAt b (i - step)
      (predict? filter (before out) (byteAt above i) (before above)).map fun p ↦
        out.push (byteAt row i + p))
    .empty

structure Pass where
  left : Nat
  top : Nat
  across : Nat
  down : Nat

namespace Pass

def all (h : Header) : List Pass :=
  if h.isInterlaced then
    [⟨0, 0, 8, 8⟩, ⟨4, 0, 8, 8⟩, ⟨0, 4, 4, 8⟩, ⟨2, 0, 4, 4⟩, ⟨0, 2, 2, 4⟩, ⟨1, 0, 2, 2⟩, ⟨0, 1, 1, 2⟩]
  else [⟨0, 0, 1, 1⟩]

def columns (p : Pass) (h : Header) : Nat := (h.width - p.left + (p.across - 1)) / p.across

def rows (p : Pass) (h : Header) : Nat :=
  if p.columns h = 0 then 0 else (h.height - p.top + (p.down - 1)) / p.down

/-- The bytes of the rows, each after one for its filter. -/
def size (p : Pass) (h : Header) : Nat := p.rows h * (1 + h.rowSize (p.columns h))

def putRow (p : Pass) (h : Header) (palette row : ByteArray) (y : Nat) (c : Canvas) : Canvas :=
  (List.range (p.columns h)).foldl
    (fun c x ↦ c.set (p.left + x * p.across) (p.top + y * p.down) (h.color palette row x)) c

/-- Puts the rows from number `y` on, which lie at a place, on a canvas. -/
def put? (p : Pass) (h : Header) (palette data : ByteArray) :
    (rest y start : Nat) → (above : ByteArray) → Canvas → Option Canvas
  | 0, _, _, _, c => some c
  | rest + 1, y, start, above, c => do
    let stop := start + 1 + h.rowSize (p.columns h)
    let row ← unfilter? h.pixelStep (byteAt data start) above (data.extract (start + 1) stop)
    put? p h palette data rest (y + 1) stop row (p.putRow h palette row y c)

end Pass

def canvas? (h : Header) (palette data : ByteArray) : Option Canvas := do
  let passes := Pass.all h
  guard (passes.foldl (fun n p ↦ n + p.size h) 0 ≤ data.size)
  let (_, c) ← passes.foldlM
    (fun (start, c) p ↦
      (p.put? h palette data (p.rows h) 0 start .empty c).map fun c ↦ (start + p.size h, c))
    (0, Canvas.filled h.width h.height Canvas.black)
  return c

end FaceDecode.Png
