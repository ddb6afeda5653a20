import FaceDecode.Sink.LogSink
import FaceDecode.Sink.PictureFile
import FaceDecode.Sink.RecordFolder

namespace FaceDecode

inductive Sink where
  | log (sink : LogSink)
  | picture (file : PictureFile)
  | records (folder : RecordFolder)

inductive SinkError where
  | log (cause : LogSinkError)
  | picture (cause : PictureFileError)
  | records (cause : RecordError)
  | unknownScheme (scheme : String)
deriving DecidableEq, Repr

namespace SinkError

def cause? : SinkError → Option String
  | log cause => some cause.message
  | picture cause => some cause.message
  | records cause => some cause.message
  | unknownScheme _ => none

def message : SinkError → String
  | log cause => s!"日志输出错误: {cause.message}"
  | picture cause => s!"保存图像文件错误: {cause.message}"
  | records cause => s!"目录记录输出错误: {cause.message}"
  | unknownScheme scheme => s!"URI 方案不匹配: 不支持的输出方案 '{scheme}'"

end SinkError

namespace Sink

def ofLocator (l : Locator) : Job SinkError Sink := do
  let disk := (← get).disk
  if l.scheme = logScheme then
    return .log (← (Job.ofLogging (LogSink.ofLocator l)).mapError .log)
  else if l.scheme = pictureScheme then
    return .picture (← (Job.ofLogging (PictureFile.ofLocator disk l)).mapError .picture)
  else if l.scheme = recordScheme then
    return .records (← (Attempt.ofExcept (RecordFolder.ofLocator l)).mapError .records)
  else throw (.unknownScheme l.scheme)

def writeLines {ε : Type} (lines : List Line) : Job ε Unit :=
  lines.forM fun line ↦ Job.write line.level line.text

def render (r : Report) : Sink → Job SinkError Unit × Sink
  | log sink =>
    let (lines, sink) := sink.render r
    (writeLines lines, log sink)
  | picture file => ((file.render r).mapError .picture, picture file)
  | records folder =>
    let (job, folder) := folder.render r
    (job.mapError .records, records folder)

def finish : Sink → Job SinkError Unit × Sink
  | log sink =>
    let (lines, sink) := sink.finish
    (writeLines lines, log sink)
  | sink => (pure (), sink)

end Sink

end FaceDecode
