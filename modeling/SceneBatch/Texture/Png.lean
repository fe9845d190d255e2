import SceneBatch.Files.Tree
import SceneBatch.Texture.Png.Header
import SceneBatch.Texture.Png.Row
import SceneBatch.Texture.Png.Stored
import SceneBatch.Texture.Reader

/-!
# A reader for PNG

A small reader to run programs with (`PictureReader.png`), which the library itself does not know.
It reads PNG pictures of eight bits a sample, gray or colored, with or without opacity, whose data
is stored without compression and without interlacing. The data ends where a chunk of another kind
begins; what follows is not looked at. Pictures are brought to another size by nearest texels.
-/

namespace SceneBatch

namespace Png

/-- The bytes that every PNG starts with. -/
def signature : Bytes := [0x89, 0x50, 0x4E, 0x47, 0x0D, 0x0A, 0x1A, 0x0A]

/-- Whether bytes start like a PNG. -/
def starts (b : Bytes) : Bool := signature.isPrefixOf b

/-- The data of the data chunks at the front, up to the next chunk of another kind. -/
def dataPieces? : Nat → Bytes → Option (List Bytes)
  | 0, _ => none
  | fuel + 1, b => do
    if (← Chunk.kindAt? b) ≠ .data then return []
    else
      let (chunk, rest) ← Chunk.take? b
      if chunk.isIntact then return chunk.data :: (← dataPieces? fuel rest) else none

/-- The picture with given rows. -/
def ofRows (width : Nat) (rows : Array (Array Texel)) : Picture where
  width := width
  height := rows.size
  texel column row := ((rows[row]?).bind (·[column]?)).getD .white

/-- The picture in a PNG. -/
def decode? (b : Bytes) : Option Picture := do
  if ¬starts b then none
  else
    let (first, rest) ← Chunk.take? (b.drop signature.length)
    let header ← Header.ofChunk? first
    let (preamble, rest) ← Preamble.takeAll? b.length { header } rest
    let pieces ← dataPieces? b.length rest
    let step := header.samples.count
    let rows ← rows? step (step * header.width) header.height [] (inflatePieces pieces)
    let texels ← rows.mapM fun row =>
      (row.pieces step).mapM (header.samples.texel? preamble.transparent)
    return ofRows header.width (texels.map List.toArray).toArray

/-- The picture in a PNG; otherwise the reason why there is none. -/
def decode (b : Bytes) : Except String Picture :=
  match decode? b with
  | some picture => .ok picture
  | none => .error "damaged picture"

/-- Whether a file of a certain name can be read as a picture. -/
def isPictureName (p : Path) : Bool :=
  match p.extension?.map fun e => String.ofList (e.toList.map Char.toLower) with
  | some "png" | some "apng" => true
  | _ => false

/-- Read a picture file; otherwise say why it cannot be read. -/
def openFile (files : FileTree) (p : Path) : Except String Picture :=
  match files.read p with
  | .error cause => .error cause.message
  | .ok b => if isPictureName p then decode b else .error "unknown picture format"

/-- The place among `source` places that lies under the middle of place `i` among `target`
places. -/
def nearest (source target i : Nat) : Nat := (2 * i + 1) * source / (2 * target)

/-- The square picture of the nearest texels. -/
def resize (p : Picture) (size : Nat) : Picture where
  width := size
  height := size
  texel column row := p.texel (nearest p.width size column) (nearest p.height size row)

end Png

/-- The reader of PNG pictures in some files. -/
def PictureReader.png (files : FileTree) : PictureReader where
  Image := Picture
  openFile := Png.openFile files
  ofBytes := Png.decode
  resize := Png.resize

end SceneBatch
