namespace FaceDecode

inductive ByteOrder where
  | little
  | big
deriving DecidableEq, Repr

namespace ByteOrder

def word (order : ByteOrder) (a b c d : UInt8) : UInt32 :=
  match order with
  | little => a.toUInt32 ||| b.toUInt32 <<< 8 ||| c.toUInt32 <<< 16 ||| d.toUInt32 <<< 24
  | big => d.toUInt32 ||| c.toUInt32 <<< 8 ||| b.toUInt32 <<< 16 ||| a.toUInt32 <<< 24

def bytes (order : ByteOrder) (w : UInt32) : List UInt8 :=
  let fromLow := [w.toUInt8, (w >>> 8).toUInt8, (w >>> 16).toUInt8, (w >>> 24).toUInt8]
  match order with
  | little => fromLow
  | big => fromLow.reverse

/-- Adds the words of a list of bytes to those before; what is left is no whole word. -/
def collect (order : ByteOrder) (before : Array UInt32) : List UInt8 → Array UInt32 × List UInt8
  | a :: b :: c :: d :: rest => collect order (before.push (order.word a b c d)) rest
  | rest => (before, rest)

def decode? (order : ByteOrder) (bytes : List UInt8) : Option (Array UInt32) :=
  match order.collect #[] bytes with
  | (words, []) => some words
  | (_, _ :: _) => none

def encode (order : ByteOrder) (words : Array UInt32) : List UInt8 :=
  words.toList.flatMap order.bytes

end ByteOrder

end FaceDecode
