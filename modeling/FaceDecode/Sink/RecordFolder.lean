import FaceDecode.Locator.Basic
import FaceDecode.Report.Document
import FaceDecode.Sink.Session

namespace FaceDecode

def recordScheme : String := "folder"

inductive RecordError where
  | otherScheme
  | blocked (path : String)
deriving DecidableEq, Repr

def RecordError.message : RecordError → String
  | .otherScheme => "URI 方案不匹配"
  | .blocked path => s!"I/O 错误: {path}"

/-- A folder for records, whether reports without faces get one too, and the last number given. -/
structure RecordFolder where
  folder : String
  always : Bool := false
  number : UInt16 := 0
deriving DecidableEq, Repr

namespace RecordFolder

def ofLocator (l : Locator) : Except RecordError RecordFolder :=
  if l.scheme ≠ recordScheme then .error .otherScheme
  else .ok { folder := l.decodedPath, always := l.pairs.any (·.1 == "always") }

def fileName (t : UtcTime) (number : UInt16) : String :=
  UtcTime.twoDigits t.hour ++ "-" ++ UtcTime.twoDigits t.minute ++ "-" ++
    UtcTime.twoDigits t.second ++ "-" ++ .ofList (Digits.padded 16 4 number.toNat) ++ ".json"

def recordPath (folder : String) (t : UtcTime) (number : UInt16) : String :=
  Path.join (Path.join (Path.join (Path.join folder (toString t.year)) (UtcTime.twoDigits t.month))
    (UtcTime.twoDigits t.day)) (fileName t number)

def document (t : UtcTime) (number : UInt16) (r : Report) : Json :=
  .object [
    ("frame_id", .ofNat number.toNat),
    ("timestamp", .text t.text),
    ("faces", r.facesDocument),
    ("ae_roi", r.exposureDocument)]

/-- The number after the last one given; it starts again at zero. -/
def nextNumber (s : RecordFolder) : UInt16 := s.number + 1

/-- Whether a report gets a record. -/
def wants (s : RecordFolder) (r : Report) : Bool := s.always || !r.faces.isEmpty

def save (s : RecordFolder) (number : UInt16) (r : Report) : Job RecordError Unit := do
  let now := (← get).now
  let path := recordPath s.folder now number
  Job.makeParents (.blocked path) path
  Job.onDisk (.blocked path) (·.write path ((document now number r).pretty 0).toUTF8)
  Job.write .debug s!"保存检测记录到文件: {path}"

def render (s : RecordFolder) (r : Report) : Job RecordError Unit × RecordFolder :=
  let number := s.nextNumber
  (if s.wants r then s.save number r else pure (), { s with number })

end RecordFolder

end FaceDecode
