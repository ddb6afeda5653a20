import FaceDecode.Number.Exponential
import FaceDecode.Number.Order
import FaceDecode.Tensor.Frame

namespace FaceDecode

/-- The probability of a face against that of background, the larger score taken off both first so
that nothing overflows. -/
def faceProbability (background face : Float32) : Float32 :=
  let top := Number.larger background face
  let b := Number.exp (background - top)
  let f := Number.exp (face - top)
  f / (b + f)

structure Candidate where
  index : Nat
  probability : Float32
  shifts : Vector Float32 4 := .replicate 4 0
  points : Vector Float32 10 := .replicate 10 0

abbrev Row := Array Float32

namespace Row

/-- Cuts a row in two behind so many values. -/
def cut (row : Row) (count : Nat) : Except OutOfRange (Row × Row) :=
  if count ≤ row.size then .ok (row.extract 0 count, row.extract count row.size)
  else .error ⟨count, row.size⟩

def get (row : Row) (i : Nat) : Except OutOfRange Float32 :=
  if h : i < row.size then .ok row[i] else .error ⟨i, row.size⟩

end Row

/-- The confidences of a scale, a row of background and a row of face for each anchor of a cell. -/
structure Rows where
  background : Vector Row anchorsPerCell
  face : Vector Row anchorsPerCell

def ScaleTensors.rows (s : ScaleTensors) : Except OutOfRange Rows := do
  let (background₀, rest) ← Row.cut s.conf.values.toArray s.cells
  let (face₀, rest) ← Row.cut rest s.cells
  let (background₁, face₁) ← Row.cut rest s.cells
  return { background := #v[background₀, background₁], face := #v[face₀, face₁] }

def Rows.probability (rows : Rows) (cell : Nat) (anchor : Fin anchorsPerCell) :
    Except OutOfRange Float32 := do
  return faceProbability (← (rows.background.get anchor).get cell)
    (← (rows.face.get anchor).get cell)

/-- The first scan: the number of the next anchor and the candidates found so far. -/
structure Scan where
  next : Nat
  found : Array Candidate

namespace Scan

def step (threshold : Float32) (scan : Scan) (probability : Float32) : Scan where
  next := scan.next + 1
  found :=
    if threshold ≤ probability then scan.found.push { index := scan.next, probability }
    else scan.found

def cell (threshold : Float32) (rows : Rows) (scan : Scan) (cell : Nat) : Except OutOfRange Scan :=
  (List.finRange anchorsPerCell).foldlM
    (fun scan anchor ↦ return scan.step threshold (← rows.probability cell anchor)) scan

def scale (threshold : Float32) (scan : Scan) (s : ScaleTensors) : Except OutOfRange Scan := do
  let rows ← s.rows
  (List.range s.cells).foldlM (Scan.cell threshold rows) scan

end Scan

/-- The second scan: the number of the next anchor, the candidates that are filled and those that
wait for their anchor. -/
structure Merge where
  next : Nat
  filled : Array Candidate
  waiting : List Candidate

namespace Candidate

def fill (c : Candidate) (s : ScaleTensors) (cell anchor : Nat) : Except OutOfRange Candidate := do
  let shifts ← s.loc.read cell anchor
  let points ← s.landms.read cell anchor
  return { c with shifts, points }

end Candidate

namespace Merge

def pass (m : Merge) (s : ScaleTensors) (cell anchor : Nat) : Except OutOfRange Merge :=
  match m.waiting with
  | [] => return { m with next := m.next + 1 }
  | c :: cs =>
    if c.index = m.next then do
      return { next := m.next + 1, filled := m.filled.push (← c.fill s cell anchor), waiting := cs }
    else return { m with next := m.next + 1 }

/-- Passes the last `count` cells of a scale for as long as a candidate waits. -/
def cells (s : ScaleTensors) : Nat → Merge → Except OutOfRange Merge
  | 0, m => return m
  | count + 1, m =>
    if m.waiting = [] then return m
    else do
      let m ← (List.finRange anchorsPerCell).foldlM (·.pass s (s.cells - (count + 1)) ·) m
      cells s count m

def scale (m : Merge) (s : ScaleTensors) : Except OutOfRange Merge := cells s s.cells m

end Merge

namespace Candidate

/-- Empties the buffer and puts the anchors there whose probability is not below the threshold. -/
def extract (buffer : Array Candidate) (f : Frame) (threshold : Float32) :
    Except OutOfRange (Array Candidate) := do
  let scan ← f.scales.toList.foldlM (Scan.scale threshold) ⟨0, buffer.shrink 0⟩
  return scan.found

/-- Fills the candidates that meet their anchor and leaves the others as they are. -/
def gather (f : Frame) (cs : List Candidate) : Except OutOfRange (List Candidate) := do
  let m ← f.scales.toList.foldlM Merge.scale ⟨0, #[], cs⟩
  return m.filled.toList ++ m.waiting

def collect (buffer : Array Candidate) (f : Frame) (threshold : Float32) :
    Except OutOfRange (Array Candidate) := do
  let found ← extract buffer f threshold
  return (← gather f found.toList).toArray

end Candidate

end FaceDecode
