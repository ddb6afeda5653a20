import FaceDecode.Detection.Anchors
import FaceDecode.Input.Format
import FaceDecode.Locator.Basic
import FaceDecode.Log
import FaceDecode.Tensor.Recognize

namespace FaceDecode

structure FrameFolders where
  format : TensorFormat
  cells : Vector Nat scaleCount
  folders : List String
deriving Repr

namespace FrameFolders

def paths (d : Disk) (folder : String) (p : Place) : List String :=
  ((d.namesIn p).mergeSort fun a b ↦ decide (a ≤ b)).map (Path.join folder)

def tensorFiles (d : Disk) (format : TensorFormat) (folder : String) :
    Except InputError (List String) :=
  match d.folder? folder with
  | none => .error (.unreadable folder)
  | some p => .ok ((paths d folder p).filter fun path ↦
      (d.read? path).isSome && Path.hasExtension path format.extension)

def subfolders (d : Disk) (folder : String) (p : Place) : List String :=
  (paths d folder p).filter fun path ↦ (d.folder? path).isSome

def framesIn (d : Disk) (format : TensorFormat) (root : String) :
    Except InputError (List String) := do
  match d.folder? root with
  | none => throw (.notFolder root)
  | some p =>
    let files ← tensorFiles d format root
    let frames := if files.isEmpty then subfolders d root p else [root]
    if frames.isEmpty then throw (.noTensors root) else return frames

def openAt (d : Disk) (format : TensorFormat) (root : String) : Logging InputError FrameFolders := do
  let folders ← Attempt.ofExcept (framesIn d format root)
  Logging.write .info s!"打开张量输入 {format.scheme}://{root}, 共 {folders.length} 帧"
  return { format, cells := AnchorTable.input.cells, folders }

def ofLocator (d : Disk) (format : TensorFormat) (l : Locator) : Logging InputError FrameFolders :=
  if l.scheme = format.scheme then openAt d format l.decodedPath
  else throw (.otherScheme format l.scheme)

/-- Opens the folder that a locator names, in the format of its scheme. -/
def ofAnyLocator (d : Disk) (l : Locator) : Logging InputError FrameFolders :=
  match TensorFormat.ofScheme? l.scheme with
  | some format => ofLocator d format l
  | none => throw (.unknownScheme l.scheme)

def loadTensor (d : Disk) (format : TensorFormat) (path : String) :
    Logging InputError (Array Float32) := do
  let values ← Attempt.ofExcept (format.read d path)
  Logging.write .debug s!"读取张量 {path}: {values.size} 个元素"
  return values

def loadFrame (s : FrameFolders) (d : Disk) (folder : String) : Logging InputError Frame := do
  let files ← Attempt.ofExcept (tensorFiles d s.format folder)
  if files.isEmpty then throw (.noTensors folder)
  let tensors ← files.mapM (loadTensor d s.format)
  Attempt.ofExcept ((Frame.recognize s.cells tensors).mapError (.layout folder))

/-- The frame in a folder, or a line that says why there is none. -/
def loadFrame? (s : FrameFolders) (d : Disk) (folder : String) : StateM Log (Option Frame) := do
  match ← s.loadFrame d folder with
  | .ok frame => return some frame
  | .error e =>
    modify (·.push ⟨.error, s!"跳过无法加载的帧 {folder}: {e.message}"⟩)
    return none

/-- The first frame that can be loaded out of a list of folders, and the folders after it. -/
def advance (s : FrameFolders) (d : Disk) : List String → StateM Log (Option Frame × List String)
  | [] => return (none, [])
  | folder :: rest => do
    match ← s.loadFrame? d folder with
    | some frame => return (some frame, rest)
    | none => s.advance d rest

def next (s : FrameFolders) (d : Disk) : StateM Log (Option Frame × FrameFolders) := do
  let (frame, folders) ← s.advance d s.folders
  return (frame, { s with folders })

end FrameFolders

end FaceDecode
