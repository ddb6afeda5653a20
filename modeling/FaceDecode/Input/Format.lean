import FaceDecode.Storage.Disk
import FaceDecode.Tensor.Frame
import FaceDecode.TensorFile.Npy

namespace FaceDecode

inductive TensorFormat where
  | npy
  | raw
deriving DecidableEq, Repr

namespace TensorFormat

def all : List TensorFormat := [npy, raw]

def scheme : TensorFormat → String
  | npy => "npy"
  | raw => "raw"

def extension : TensorFormat → String
  | npy => "npy"
  | raw => "bin"

def ofScheme? (scheme : String) : Option TensorFormat := all.find? (·.scheme == scheme)

end TensorFormat

inductive InputError where
  | unreadable (path : String)
  | otherScheme (expected : TensorFormat) (scheme : String)
  | unknownScheme (scheme : String)
  | notFolder (path : String)
  | noTensors (path : String)
  | layout (path : String) (cause : FrameError)
  | partialWord (path : String) (size : Nat)
  | columnMajor (path : String)
deriving DecidableEq, Repr

def InputError.message : InputError → String
  | .unreadable path => s!"I/O 错误: {path}"
  | .otherScheme expected scheme =>
    s!"URI 方案不匹配: 期望输入方案 '{expected.scheme}', 实际方案 '{scheme}'"
  | .unknownScheme scheme => s!"URI 方案不匹配: 不支持的输入方案 '{scheme}'"
  | .notFolder path => s!"输入路径不存在或不是目录: {path}"
  | .noTensors path => s!"目录中没有张量文件: {path}"
  | .layout path cause => s!"张量布局错误 {path}: {cause.message}"
  | .partialWord path size => s!"原始张量文件 {path} 长度 {size} 不是 4 字节的整数倍"
  | .columnMajor path => s!"不支持 Fortran 顺序的 npy 文件: {path}"

namespace TensorFormat

def decode (format : TensorFormat) (path : String) (content : List UInt8) :
    Except InputError (Array UInt32) :=
  match format with
  | raw =>
    match ByteOrder.little.decode? content with
    | some words => .ok words
    | none => .error (.partialWord path content.length)
  | npy =>
    match Npy.read content with
    | .ok words => .ok words
    | .error .malformed => .error (.unreadable path)
    | .error .columnMajor => .error (.columnMajor path)

def read (format : TensorFormat) (d : Disk) (path : String) : Except InputError (Array Float32) :=
  match d.read? path with
  | none => .error (.unreadable path)
  | some content => (format.decode path content.toList).map (·.map Float32.ofBits)

end TensorFormat

end FaceDecode
