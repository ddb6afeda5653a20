import FaceDecode.Detection.Score
import FaceDecode.Geometry.CenterBox

namespace FaceDecode

/-- A candidate whose box and points are worked out. -/
structure Detection where
  score : Score
  box : CenterBox
  landmarks : Landmarks Float32

namespace Detection

def precedes (a b : Detection) : Bool :=
  b.score.rank ≤ a.score.rank

def Clash (threshold : Float32) (a b : Detection) : Prop := threshold ≤ a.box.iou b.box

instance (threshold : Float32) (a b : Detection) : Decidable (Clash threshold a b) :=
  inferInstanceAs (Decidable (threshold ≤ a.box.iou b.box))

variable (threshold : Float32) {n : Nat} (ds : Vector Detection n)

def ranked : List (Fin n) := (List.finRange n).mergeSort fun i j ↦ precedes (ds.get i) (ds.get j)

/-- Marks place `j` if the detection there clashes with the one that is kept in place `i`. -/
def mark (i : Fin n) (marks : Vector Bool n) (j : Fin n) : Vector Bool n :=
  if marks.get j = false ∧ Clash threshold (ds.get i) (ds.get j) then marks.set j true else marks

/-- Keeps the places that are not marked when their turn comes. Each marks those behind it. -/
def sweep : List (Fin n) → Vector Bool n → List (Fin n)
  | [], _ => []
  | i :: rest, marks =>
    if marks.get i then sweep rest marks
    else i :: sweep rest (rest.foldl (mark threshold ds i) marks)

def suppress (threshold : Float32) (ds : List Detection) : List Detection :=
  let all : Vector Detection ds.length := ⟨ds.toArray, rfl⟩
  (sweep threshold all (ranked all) (.replicate _ false)).map all.get

end Detection

end FaceDecode
