import SceneBatch.Texture.Picture
import SceneBatch.Texture.Png.Chunk

/-!
# What stands in front of a PNG's data

The first chunk of a PNG is its header. Between it and the data, a chunk may name a color or a
shade that is transparent wherever it occurs, and another one the part of the picture that is the
first frame of an animation, which has to be all of it.
-/

namespace SceneBatch

namespace Png

/-- The kinds of sample: gray, color, gray with opacity, color with opacity. -/
inductive Samples where
  | gray
  | color
  | grayAlpha
  | colorAlpha
  deriving DecidableEq, Repr

namespace Samples

/-- The kind with a given code. -/
def ofCode? : UInt8 → Option Samples
  | 0 => some gray
  | 2 => some color
  | 4 => some grayAlpha
  | 6 => some colorAlpha
  | _ => none

/-- The number of samples of a texel. -/
def count : Samples → Nat
  | gray => 1
  | color => 3
  | grayAlpha => 2
  | colorAlpha => 4

/-- The samples that are transparent: each takes two bytes, of which the second counts. -/
def transparent? : Samples → Bytes → Option Bytes
  | gray, _ :: v :: _ => some [v]
  | color, _ :: r :: _ :: g :: _ :: b :: _ => some [r, g, b]
  | _, _ => none

/-- The texel of some samples. Where they do not say how opaque it is, it is opaque, unless they
are those that are transparent. -/
def texel? (transparent : Option Bytes) (samples : Samples) (b : Bytes) : Option Texel :=
  let alpha : UInt8 := if transparent = some b then 0 else 255
  match samples, b with
  | gray, [v] => some ⟨v, v, v, alpha⟩
  | color, [r, g, b] => some ⟨r, g, b, alpha⟩
  | grayAlpha, [v, a] => some ⟨v, v, v, a⟩
  | colorAlpha, [r, g, b, a] => some ⟨r, g, b, a⟩
  | _, _ => none

end Samples

/-- The size of a picture and the kind of its samples. -/
structure Header where
  width : Nat
  height : Nat
  samples : Samples

/-- Read a header chunk. -/
def Header.ofChunk? (c : Chunk) : Option Header :=
  match c.data.drop 8 with
  | [depth, code, compression, filter, interlace] => do
    let samples ← Samples.ofCode? code
    let width := bigEndian (c.data.take 4)
    let height := bigEndian ((c.data.drop 4).take 4)
    if c.kind = .header ∧ c.isIntact ∧ depth = 8 ∧ compression = 0 ∧ filter = 0 ∧ interlace = 0 ∧
        width ≠ 0 ∧ height ≠ 0 then some ⟨width, height, samples⟩
    else none
  | _ => none

/-- What is known of a picture in front of its data: its header, the samples that are transparent,
whether there was a palette, and how many frames have been announced. -/
structure Preamble where
  header : Header
  transparent : Option Bytes := none
  hasPalette : Bool := false
  frames : Nat := 0

namespace Preamble

/-- Whether the data of a frame chunk announces a frame that is the whole picture. Frames are
numbered from zero on. -/
def isWholeFrame (p : Preamble) (data : Bytes) : Bool :=
  let word (place : Nat) : Nat := bigEndian ((data.drop (4 * place)).take 4)
  match data.drop 24 with
  | dispose :: blend :: _ =>
    word 0 = p.frames ∧ word 1 = p.header.width ∧ word 2 = p.header.height ∧ word 3 = 0 ∧
      word 4 = 0 ∧ dispose ≤ 2 ∧ blend ≤ 1
  | _ => false

/-- Take up a chunk in front of the data. Ancillary chunks may be damaged. -/
def take? (p : Preamble) (c : Chunk) : Option Preamble :=
  match c.kind with
  | .ancillary => some p
  | .transparency =>
    if c.isIntact then
      some { p with transparent := p.transparent.or (p.header.samples.transparent? c.data) }
    else some p
  | .frame =>
    if ¬c.isIntact then some p
    else if p.isWholeFrame c.data then some { p with frames := p.frames + 1 }
    else none
  | .palette => if c.isIntact ∧ ¬p.hasPalette then some { p with hasPalette := true } else none
  | .header | .frameData | .data | .ending | .critical => none

/-- Take up the chunks in front of the data, which is left. -/
def takeAll? : Nat → Preamble → Bytes → Option (Preamble × Bytes)
  | 0, _, _ => none
  | fuel + 1, p, b => do
    if (← Chunk.kindAt? b) = .data then return (p, b)
    else
      let (chunk, rest) ← Chunk.take? b
      takeAll? fuel (← p.take? chunk) rest

end Preamble

end Png

end SceneBatch
