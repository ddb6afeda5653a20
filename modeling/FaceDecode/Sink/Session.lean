import FaceDecode.Log
import FaceDecode.Sink.UtcTime
import FaceDecode.Storage.Disk

namespace FaceDecode

structure Session where
  disk : Disk
  now : UtcTime
  log : Log := #[]

abbrev Job (ε α : Type) := Attempt Session ε α

namespace Job

variable {ε α : Type}

def ofLogging (step : Logging ε α) : Job ε α := fun s ↦
  let (r, log) := step s.log
  (r, { s with log })

def write (level : Level) (text : String) : Job ε Unit := ofLogging (Logging.write level text)

def onDisk (failure : ε) (change : Disk → Option Disk) : Job ε Unit := do
  match change (← get).disk with
  | some disk => modify fun s ↦ { s with disk }
  | none => throw failure

def makeParents (failure : ε) (path : String) : Job ε Unit :=
  match Path.parent? path with
  | none | some "" => return ()
  | some folder => onDisk failure (·.makeFolders folder)

end Job

end FaceDecode
