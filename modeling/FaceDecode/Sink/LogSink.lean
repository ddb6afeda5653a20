import FaceDecode.Decimal.Read
import FaceDecode.Decimal.Text
import FaceDecode.Locator.Basic
import FaceDecode.Log
import FaceDecode.Overlay

namespace FaceDecode

def logScheme : String := "log"

inductive LogSinkError where
  | otherScheme (scheme : String)
  | badValue (key value : String)
deriving DecidableEq, Repr

def LogSinkError.message : LogSinkError → String
  | .otherScheme scheme => s!"URI 方案不匹配: 期望输出方案 '{logScheme}', 实际方案 '{scheme}'"
  | .badValue key value => s!"参数 {key} 的值无效: {value}"

structure LogSink where
  overlay : Overlay := {}
deriving DecidableEq, Repr

namespace LogSink

def setter? (key : String) : Option (Overlay → UInt32 → Overlay) :=
  match key with
  | "input_width" => some fun o n ↦ { o with model := { o.model with width := n } }
  | "input_height" => some fun o n ↦ { o with model := { o.model with height := n } }
  | "display_width" => some fun o n ↦ { o with display := { o.display with width := n } }
  | "display_height" => some fun o n ↦ { o with display := { o.display with height := n } }
  | _ => none

def take (o : Overlay) (pair : String × String) : Logging LogSinkError Overlay :=
  match setter? pair.1 with
  | none => do
    Logging.write .warn s!"忽略未知的输出参数: {pair.1}={pair.2}"
    return o
  | some set =>
    match Read.word? pair.2 with
    | some n => return set o n
    | none => throw (.badValue pair.1 pair.2)

def ofLocator (l : Locator) : Logging LogSinkError LogSink := do
  if l.scheme ≠ logScheme then throw (.otherScheme l.scheme)
  let overlay ← l.pairs.foldlM take {}
  return { overlay }

def pointText (p : Point Int32) : String := s!"[{p.x.toInt}, {p.y.toInt}]"

def faceLine (i : Nat) (f : Face) : Line :=
  let points := ", ".intercalate (f.landmarks.toList.map pointText)
  ⟨.info, s!"人脸 {i}: 置信度 {Number.thousandths f.score}, " ++
    s!"框 ({f.box.x1.toInt}, {f.box.y1.toInt}) - ({f.box.x2.toInt}, {f.box.y2.toInt}), " ++
    s!"关键点 [{points}]"⟩

def windowLine (w : ExposureWindow) : Line :=
  ⟨.info, s!"ROI 窗口: 偏移 ({w.left}, {w.top}), 尺寸 {w.width}x{w.height}, " ++
    s!"权重 {Number.thousandths w.weight}"⟩

def windowLines (windows : List ExposureWindow) : List Line :=
  ⟨.info, s!"AE ROI 窗口 {windows.length} 个"⟩ :: windows.map windowLine

def reportLines (r : Report) : List Line :=
  ⟨.info, s!"检测到 {r.faces.length} 个人脸"⟩ :: r.faces.mapIdx (fun i f ↦ faceLine (i + 1) f) ++
    (r.exposure.map windowLines).getD []

def commandLine (c : MarkerCommand) : Line := ⟨.debug, c.text⟩

def render (s : LogSink) (r : Report) : List Line × LogSink :=
  let (commands, overlay) := s.overlay.update r.boxes
  (reportLines r ++ commands.map commandLine, { overlay })

def finish (s : LogSink) : List Line × LogSink :=
  let (commands, overlay) := s.overlay.finish
  (commands.map commandLine, { overlay })

end LogSink

end FaceDecode
