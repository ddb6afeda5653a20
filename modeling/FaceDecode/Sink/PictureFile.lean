import FaceDecode.Decimal.Read
import FaceDecode.Locator.Basic
import FaceDecode.Picture.Drawing
import FaceDecode.Picture.Format
import FaceDecode.Picture.Png.Write
import FaceDecode.Sink.Session

namespace FaceDecode

def pictureScheme : String := "image"

inductive PictureFileError where
  | blocked (path : String)
  | picture (path : String)
  | otherScheme (scheme : String)
  | badValue (key value : String)
  | tooLarge (width height : UInt32)
deriving DecidableEq, Repr

def PictureFileError.message : PictureFileError → String
  | .blocked path => s!"I/O 错误: {path}"
  | .picture path => s!"图像错误: {path}"
  | .otherScheme scheme =>
    s!"URI 方案不匹配: 期望保存方式 '{pictureScheme}', 实际保存方式 '{scheme}'"
  | .badValue key value => s!"参数 {key} 的值无效: {value}"
  | .tooLarge width height => s!"图像尺寸过大: {width}x{height}"

structure PictureFile where
  path : String
  background : Option Canvas := none
  width : UInt32 := 1280
  height : UInt32 := 720

namespace PictureFile

def open? (d : Disk) (path : String) : Option Canvas := do
  let format ← PictureFormat.ofPath? path
  format.decode? (← d.read? path)

def take (d : Disk) (s : PictureFile) (pair : String × String) :
    Logging PictureFileError PictureFile :=
  let size (set : UInt32 → PictureFile) : Logging PictureFileError PictureFile :=
    match Read.word? pair.2 with
    | some n => return set n
    | none => throw (.badValue pair.1 pair.2)
  match pair.1 with
  | "width" => size fun n ↦ { s with width := n }
  | "height" => size fun n ↦ { s with height := n }
  | "background" =>
    match open? d pair.2 with
    | some canvas => return { s with background := some canvas }
    | none => throw (.picture pair.2)
  | _ => do
    Logging.write .warn s!"忽略未知的输出参数: {pair.1}={pair.2}"
    return s

/-- The file that a locator describes. The size is checked after all parameters. -/
def ofLocator (d : Disk) (l : Locator) : Logging PictureFileError PictureFile := do
  if l.scheme ≠ pictureScheme then throw (.otherScheme l.scheme)
  let s ← l.pairs.foldlM (take d) { path := l.decodedPath }
  if s.width = 0 ∨ s.height = 0 then throw (.badValue "width/height" s!"{s.width}x{s.height}")
  return s

def canvas? (s : PictureFile) : Option Canvas :=
  s.background <|> Canvas.filled? s.width.toNat s.height.toNat Canvas.black

/-- Writes a picture. The file is made even if its format cannot hold the picture. -/
def save (s : PictureFile) (c : Canvas) : Job PictureFileError Unit := do
  Job.makeParents (.blocked s.path) s.path
  match PictureFormat.ofPath? s.path with
  | none => throw (.picture s.path)
  | some format =>
    let content := if format.admits c then Png.encode c else .empty
    Job.onDisk (.picture s.path) (·.write s.path content)
    unless format.admits c do throw (.picture s.path)
    Job.write .info s!"保存图像到文件: {s.path}"

def render (s : PictureFile) (r : Report) : Job PictureFileError Unit :=
  match s.canvas? with
  | none => throw (.tooLarge s.width s.height)
  | some c => s.save (c.drawFaces r.faces)

end PictureFile

end FaceDecode
