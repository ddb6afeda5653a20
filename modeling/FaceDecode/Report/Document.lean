import FaceDecode.Decimal.Text
import FaceDecode.Report.Basic
import FaceDecode.Text.Json

namespace FaceDecode

namespace Json

def ofInt32 (n : Int32) : Json := .literal (toString n.toInt)

def ofNat (n : Nat) : Json := .literal (toString n)

def ofSingle (x : Float32) : Json := .literal (Number.dataText x)

end Json

def Point.document (p : Point Int32) : Json := .list [.ofInt32 p.x, .ofInt32 p.y]

def PixelBox.document (b : PixelBox) : Json :=
  .object [("x1", .ofInt32 b.x1), ("y1", .ofInt32 b.y1), ("x2", .ofInt32 b.x2), ("y2", .ofInt32 b.y2)]

def Face.document (f : Face) : Json :=
  .object [
    ("score", .ofSingle f.score),
    ("bbox", f.box.document),
    ("landmarks", .object [("points", .list (f.landmarks.toList.map Point.document))])]

def ExposureWindow.document (w : ExposureWindow) : Json :=
  .object [
    ("h_offset", .ofNat w.left.toNat),
    ("v_offset", .ofNat w.top.toNat),
    ("width", .ofNat w.width.toNat),
    ("height", .ofNat w.height.toNat),
    ("weight", .ofSingle w.weight)]

namespace Report

def facesDocument (r : Report) : Json := .object [("items", .list (r.faces.map Face.document))]

def exposureDocument (r : Report) : Json :=
  match r.exposure with
  | none => .null
  | some windows => .object [("windows", .list (windows.map ExposureWindow.document))]

def document (r : Report) : Json :=
  .object [("result", r.facesDocument), ("ae_roi", r.exposureDocument)]

end Report

end FaceDecode
