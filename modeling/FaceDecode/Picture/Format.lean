import FaceDecode.Picture.Bmp
import FaceDecode.Picture.Farbfeld
import FaceDecode.Picture.Gif
import FaceDecode.Picture.Png.Read
import FaceDecode.Picture.Pnm.Read
import FaceDecode.Picture.Qoi
import FaceDecode.Picture.Tga
import FaceDecode.Storage.Path

namespace FaceDecode

inductive PictureFormat where
  | png
  | jpeg
  | gif
  | webp
  | pnm
  | tiff
  | tga
  | dds
  | bmp
  | ico
  | hdr
  | exr
  | farbfeld
  | avif
  | qoi
deriving DecidableEq, Repr

namespace PictureFormat

def all : List PictureFormat :=
  [png, jpeg, gif, webp, pnm, tiff, tga, dds, bmp, ico, hdr, exr, farbfeld, avif, qoi]

def extensions : PictureFormat → List String
  | png => ["png", "apng"]
  | jpeg => ["jpg", "jpeg", "jfif"]
  | gif => ["gif"]
  | webp => ["webp"]
  | pnm => ["pbm", "pam", "ppm", "pgm", "pnm"]
  | tiff => ["tif", "tiff"]
  | tga => ["tga"]
  | dds => ["dds"]
  | bmp => ["bmp"]
  | ico => ["ico"]
  | hdr => ["hdr"]
  | exr => ["exr"]
  | farbfeld => ["ff"]
  | avif => ["avif"]
  | qoi => ["qoi"]

def ofPath? (path : String) : Option PictureFormat :=
  all.find? fun f ↦ f.extensions.any (Path.hasExtension path)

def decode? (f : PictureFormat) (bytes : ByteArray) : Option Canvas :=
  match f with
  | png => Png.decode? bytes
  | pnm => Pnm.decode? bytes
  | bmp => Bmp.decode? bytes
  | gif => Gif.decode? bytes
  | farbfeld => Farbfeld.decode? bytes
  | qoi => Qoi.decode? bytes
  | tga => Tga.decode? bytes
  | _ => none

/-- The longest side of a picture in a format, if it has a limit. The formats that want other
samples hold no picture at all. -/
def maxSide? : PictureFormat → Option Nat
  | dds | hdr | exr | farbfeld => some 0
  | ico => some 256
  | webp => some 16384
  | jpeg | gif | tga => some (UInt16.size - 1)
  | _ => none

def allowsEmpty : PictureFormat → Bool
  | pnm | bmp | tga => true
  | _ => false

def admits (f : PictureFormat) (c : Canvas) : Bool :=
  (f.maxSide?.all fun n ↦ c.width ≤ n && c.height ≤ n) &&
    (f.allowsEmpty || c.width ≠ 0 && c.height ≠ 0)

end PictureFormat

end FaceDecode
