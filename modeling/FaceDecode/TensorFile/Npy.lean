import FaceDecode.TensorFile.Literal
import FaceDecode.TensorFile.Words
import FaceDecode.Text.Utf8

namespace FaceDecode.Npy

inductive Fault where
  | malformed
  | columnMajor
deriving DecidableEq, Repr

inductive ElementType where
  | plain (mark letter : Char) (size : Nat)
  | record (bytes : Nat)
deriving DecidableEq, Repr

structure Header where
  element : ElementType
  columnMajor : Bool
  shape : List Nat
deriving DecidableEq, Repr

def fitting? (bytes : Nat) : Option Nat := if bytes < UInt64.size then some bytes else none

def timeUnits : List String := ["as", "fs", "ps", "ns", "us", "ms", "s", "m", "h", "D", "W", "M", "Y"]

/-- The sizes that go with a letter: numbers have few, texts and blocks have any. -/
def isSize (letter : Char) (size : Nat) : Bool :=
  match letter with
  | 'b' => size == 1
  | 'i' | 'u' => [1, 2, 4, 8].contains size
  | 'f' => [2, 4, 8, 16].contains size
  | 'c' => [8, 16, 32].contains size
  | 'm' | 'M' => size == 8
  | 'a' | 'S' | 'U' | 'V' => true
  | _ => false

/-- What follows the size: a unit in square brackets after times, nothing after all else. -/
def isUnit (letter : Char) (cs : List Char) : Bool :=
  if letter == 'm' || letter == 'M' then
    timeUnits.any fun unit ↦ cs == ("[" ++ unit ++ "]").toList
  else cs.isEmpty

def isOrderless (letter : Char) (size : Nat) : Bool :=
  "baSV".toList.contains letter || ((letter == 'i' || letter == 'u') && size == 1)

/-- A byte order mark, a letter, a size, and a unit where there is one. -/
def plainType? (text : String) : Option ElementType :=
  match text.toList with
  | mark :: letter :: rest => do
    let (digits, rest) := Read.spanDigits rest
    let size ← (Read.natural? digits).bind fitting?
    guard (isSize letter size && isUnit letter rest)
    guard (mark == '<' || mark == '>' || (mark == '|' && isOrderless letter size))
    return .plain mark letter size
  | _ => none

def ElementType.bytes? : ElementType → Option Nat
  | .plain _ 'U' size => fitting? (4 * size)
  | .plain _ _ size => some size
  | .record bytes => some bytes

def extent? : Literal → Option Nat
  | .integer (.ofNat n) => fitting? n
  | _ => none

def shape? : Literal → Option (List Nat)
  | .tuple items | .list items => items.mapM extent?
  | _ => none

def arrayBytes? (shape : List Nat) (bytes : Nat) : Option Nat :=
  shape.foldr (fun extent inner ↦ inner.bind fun n ↦ fitting? (extent * n)) (some bytes)

mutual

def bytes? : Literal → Option Nat
  | .text s => (plainType? s).bind ElementType.bytes?
  | .list fields => fieldBytes? fields
  | _ => none

/-- The bytes of fields together. A field has a name, a type, and a shape if it is an array. -/
def fieldBytes? : List Literal → Option Nat
  | [] => some 0
  | .tuple [.text _, type] :: rest | .list [.text _, type] :: rest =>
    match bytes? type, fieldBytes? rest with
    | some n, some more => fitting? (n + more)
    | _, _ => none
  | .tuple [.text _, type, shape] :: rest | .list [.text _, type, shape] :: rest =>
    match bytes? type, shape? shape, fieldBytes? rest with
    | some n, some shape, some more => (arrayBytes? shape n).bind fun n ↦ fitting? (n + more)
    | _, _, _ => none
  | _ :: _ => none

end

def elementType? (l : Literal) : Option ElementType :=
  (bytes? l).bind fun bytes ↦
    match l with
    | .text s => plainType? s
    | _ => some (.record bytes)

def entryName? : Literal × Literal → Option String
  | (.text name, _) => some name
  | _ => none

def lookup? (name : String) (entries : List (Literal × Literal)) : Option Literal :=
  (entries.reverse.find? fun e ↦ entryName? e == some name).map (·.2)

def headerOf? : Literal → Option Header
  | .table entries => do
    guard (entries.all fun e ↦ (entryName? e).isSome)
    let element ← elementType? (← lookup? "descr" entries)
    let columnMajor ← match ← lookup? "fortran_order" entries with
      | .flag value => some value
      | _ => none
    let shape ← shape? (← lookup? "shape" entries)
    return { element, columnMajor, shape }
  | _ => none

def magic : List UInt8 := [0x93, 0x4e, 0x55, 0x4d, 0x50, 0x59]

def ofBytes (bytes : List UInt8) : Nat := bytes.foldr (fun b n ↦ b.toNat + 256 * n) 0

def lengthWidth? (major minor : UInt8) : Option Nat :=
  if minor ≠ 0 then none
  else if major = 1 then some 2
  else if major = 2 ∨ major = 3 then some 4
  else none

def split? (n : Nat) (bytes : List UInt8) : Option (List UInt8 × List UInt8) :=
  let first := bytes.take n
  if first.length = n then some (first, bytes.drop n) else none

def dropFinalBreak (bytes : List UInt8) : List UInt8 :=
  if bytes.getLast? = some 10 then bytes.dropLast else bytes

def header? (bytes : List UInt8) : Option (Header × List UInt8) := do
  let (start, bytes) ← split? magic.length bytes
  guard (start = magic)
  let (version, bytes) ← split? 2 bytes
  let width ← lengthWidth? (version.getD 0 0) (version.getD 1 0)
  let (length, bytes) ← split? width bytes
  let (text, bytes) ← split? (ofBytes length) bytes
  let literal ← Literal.read? (← Utf8.decode? (dropFinalBreak text))
  return (← headerOf? literal, bytes)

def ElementType.order? : ElementType → Option ByteOrder
  | .plain '<' 'f' 4 => some .little
  | .plain '>' 'f' 4 => some .big
  | _ => none

/-- How many elements a shape has, as a number of eight bytes. -/
def elementCount (shape : List Nat) : Nat :=
  (shape.foldl (fun n extent ↦ n * .ofNat extent) (1 : UInt64)).toNat

def read (bytes : List UInt8) : Except Fault (Array UInt32) :=
  match header? bytes with
  | none => .error .malformed
  | some (header, rest) =>
    if header.columnMajor then .error .columnMajor
    else match header.element.order?, split? (4 * elementCount header.shape) rest with
      | some order, some (elements, _) => .ok (order.collect #[] elements).1
      | _, _ => .error .malformed

end FaceDecode.Npy
