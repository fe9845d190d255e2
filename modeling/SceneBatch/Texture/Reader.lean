import SceneBatch.Texture.Picture
import SceneBatch.Texture.Source

/-!
# Reading pictures

Which formats a picture may have, how they are decoded, and how a picture is brought to another
size: all of this is left to a reader, which whoever keeps textures has to bring along. The files
that a reader opens stay as they are for as long as it is used.
-/

namespace SceneBatch

/-- What reads pictures. A file or the bytes of one give an image, or the reason why they do not. -/
structure PictureReader where
  Image : Type
  openFile : Path → Except String Image
  ofBytes : Bytes → Except String Image
  /-- The square picture of an image with so many texels to a side. -/
  resize : Image → Nat → Picture

namespace PictureReader

/-- Read the image that a model refers to. -/
def read (reader : PictureReader) : ImageSource → Except String reader.Image
  | .file p => reader.openFile p
  | .bytes b => reader.ofBytes b

/-- A reader without files, to which nothing is a picture. -/
def empty : PictureReader where
  Image := Empty
  openFile _ := .error "no such file"
  ofBytes _ := .error "unknown picture format"
  resize image _ := nomatch image

end PictureReader

end SceneBatch
