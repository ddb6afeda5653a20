import FaceDecode.CommandLine.Run
import Std.Time.Zoned

namespace FaceDecode

def UtcTime.now : IO UtcTime := do
  let t := (Std.Time.DateTime.ofTimestampWithZone (← Std.Time.Timestamp.now) .UTC).toPlainDateTime
  return {
    year := t.date.year.toInt
    month := min t.date.month.toNat 12
    day := min t.date.day.toNat 31
    hour := min t.time.hour.toNat 23
    minute := min t.time.minute.toNat 59
    second := min t.time.second.toNat 59
    nanosecond := t.time.nanosecond.toNat
    month_le := by omega
    day_le := by omega
    hour_lt := by omega
    minute_lt := by omega
    second_lt := by omega }

namespace Disk

def pathText (p : Place) : String := "/" ++ "/".intercalate p

def load : Nat → Disk → Place → IO Disk
  | depth, d, p => do
    let path := (← IO.currentDir) / pathText p
    if ← path.isDir then
      let d := d.put p .folder
      match depth with
      | 0 => return d
      | depth + 1 =>
        (← path.readDir).foldlM (fun d entry ↦ load depth d (p ++ [entry.fileName])) d
    else if ← path.pathExists then return d.put p (.file (← IO.FS.readBinFile path))
    else return d

def loadPath (depth : Nat) (d : Disk) (path : String) : IO Disk := do
  let places := passed (d.start path) (Path.names path)
  (places.getLast?.toList).foldlM (load depth) (← places.foldlM (load 0) d)

def store (p : Place) : Node → IO Unit
  | .folder => IO.FS.createDirAll (pathText p)
  | .file content => IO.FS.writeBinFile (pathText p) content

end Disk

def Session.start (program : Program) (arguments : List String) : IO Session := do
  let here := Path.names (← IO.currentDir).toString
  let disk ← match program.read {} arguments with
    | .ok (.run plan) => do
      let disk ← Disk.loadPath 2 { here } plan.input.decodedPath
      plan.outputPaths.foldlM (Disk.loadPath 0) disk
    | _ => pure { here }
  return { disk, now := ← UtcTime.now }

end FaceDecode

open FaceDecode in
def main (arguments : List String) : IO UInt32 := do
  let name := ((← IO.appPath).fileName).getD ""
  let program := if name.endsWith "benchmark" then Program.benchmark else Program.detection
  let session ← Session.start program arguments
  let outcome := program.perform arguments session
  (outcome.session.disk.changes session.disk).forM fun (p, node) ↦ Disk.store p node
  outcome.output.forM IO.println
  (← IO.getStderr).putStr outcome.complaint
  return outcome.exitCode.toUInt32
