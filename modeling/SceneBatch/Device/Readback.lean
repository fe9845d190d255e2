import SceneBatch.Fault
import SceneBatch.Files.Bytes
import SceneBatch.Number.Single

/-!
# Reading frames back

A device copies a frame into a buffer row by row, where each row starts at a multiple of 256
bytes. Reading the frame back drops what lies between the rows.
-/

namespace SceneBatch

/-- What goes wrong on a device. -/
inductive RenderFault where
  | noAdapter
  | noDevice (reason : String)
  | notReadable (reason : String)
  deriving DecidableEq, Repr

namespace RenderFault

/-- The words for a fault of a device. -/
def message : RenderFault → String
  | noAdapter => "No GPU adapter available"
  | noDevice reason => "Failed to create device: " ++ reason
  | notReadable reason => "Failed to read back frame: " ++ reason

/-- A fault of a device among all faults. -/
def toFault (f : RenderFault) : Fault := .render f.message

end RenderFault

namespace Readback

/-- The name of the buffer that a frame is copied into. -/
def label : String := "Kiln Readback"

/-- What the starts of rows are multiples of. -/
def alignment : UInt32 := 256

/-- The bytes of a row of texels. -/
def rowBytes (width : UInt32) : UInt32 := width * 4

/-- The bytes from the start of one row to that of the next. -/
def pitch (width : UInt32) : UInt32 :=
  let units := rowBytes width / alignment
  let rest := rowBytes width % alignment
  (if rest = 0 then units else units + 1) * alignment

/-- The bytes of the buffer for a frame. -/
def bufferSize (width height : UInt32) : Nat := (pitch width).toNat * height.toNat

/-- A frame's rows as the device copies them, the `i`-th one with `filler i` behind it. -/
def copyRows (filler : Nat → Bytes) (rows : List Bytes) : Bytes :=
  rows.zipIdx.flatMap fun (row, i) => row ++ filler i

/-- Read at most `count` lines of a buffer: the first `row` bytes of each. A line that has fewer
cannot be read. -/
def readLines? (row line : Nat) : (count : Nat) → Bytes → Option Bytes
  | 0, _ => some []
  | count + 1, b =>
    if b.isEmpty then some []
    else do
      let texels ← Bytes.slice? (b.take line) 0 row
      return texels ++ (← readLines? row line count (b.drop line))

/-- Read the rows of a frame out of a buffer. Lines without bytes cannot be told apart. -/
def readRows? (width height : UInt32) (b : Bytes) : Option Bytes :=
  if pitch width = 0 then none
  else readLines? (rowBytes width).toNat (pitch width).toNat height.toNat b

/-- The texels of a frame, copied into a buffer and read back. -/
def readPixels? (width height : UInt32) (texels : Bytes) : Option Bytes :=
  let zeros := List.replicate (pitch width - rowBytes width).toNat 0
  readRows? width height (copyRows (fun _ => zeros) (texels.pieces (rowBytes width).toNat))

/-- The width of a frame over its height. -/
def aspectRatio (width height : UInt32) : Float32 :=
  Single.ofInt width.toNat / Single.ofInt height.toNat

end Readback

end SceneBatch
