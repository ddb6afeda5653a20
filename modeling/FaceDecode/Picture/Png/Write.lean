import FaceDecode.Picture.Canvas
import FaceDecode.Picture.Inflate
import FaceDecode.Picture.Png.Chunk

namespace FaceDecode.Png

def packed (data : ByteArray) : ByteArray :=
  ⟨#[0x78, 0x01]⟩ ++ Inflate.store data ++ fourBytes (Checksum.sums data)

def pushColor (out : ByteArray) (c : Color) : ByteArray :=
  ((out.push c.red).push c.green).push c.blue

def rows (c : Canvas) : ByteArray :=
  (c.pixels.toArray.foldl
    (fun (out, column) color ↦
      let out := if column = 0 then out.push 0 else out
      (pushColor out color, if column + 1 = c.width then 0 else column + 1))
    (.empty, 0)).1

def encode (c : Canvas) : ByteArray :=
  let header := fourBytes c.width.toUInt32 ++ fourBytes c.height.toUInt32 ++ ⟨#[8, 2, 0, 0, 0]⟩
  signature ++ Chunk.encode "IHDR" header ++ Chunk.encode "IDAT" (packed (rows c)) ++
    Chunk.encode "IEND" .empty

end FaceDecode.Png
