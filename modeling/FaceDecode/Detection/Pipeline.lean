import FaceDecode.Detection.Anchors
import FaceDecode.Detection.Candidate
import FaceDecode.Detection.Suppression
import FaceDecode.Log
import FaceDecode.Report.Basic

namespace FaceDecode

structure DetectSettings where
  scoreThreshold : Float32 := 0.6
  overlapThreshold : Float32 := 0.5
  width : UInt32 := 1280
  height : UInt32 := 720

namespace Detection

def ofCandidate (table : AnchorTable) (c : Candidate) : Except OutOfRange Detection := do
  let anchor ← table.get c.index
  return {
    score := .ofValue c.probability
    box := anchor.decode c.shifts
    landmarks := anchor.decodeLandmarks c.points }

def face (l : Letterbox) (d : Detection) : Face where
  score := d.score.value
  box := l.mapBox d.box
  landmarks := l.mapLandmarks d.landmarks

def detect (f : Frame) (table : AnchorTable) (s : DetectSettings) :
    Except OutOfRange (List Face) :=
  if f.cells ≠ table.cells then .ok []
  else do
    let candidates ← Candidate.collect #[] f s.scoreThreshold
    let detections ← candidates.toList.mapM (ofCandidate table)
    return (suppress s.overlapThreshold detections).map (face (.ofSize s.width s.height))

def cellsText (cells : Vector Nat scaleCount) : String :=
  "[" ++ ", ".intercalate (cells.toList.map toString) ++ "]"

def detectLogged (f : Frame) (table : AnchorTable) (s : DetectSettings) :
    Logging OutOfRange (List Face) := do
  if f.cells ≠ table.cells then
    Logging.write .warn
      s!"张量网格数 {cellsText f.cells} 与锚框表 {cellsText table.cells} 不一致, 跳过检测"
  Attempt.ofExcept (detect f table s)

end Detection

end FaceDecode
