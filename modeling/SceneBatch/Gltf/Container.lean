import SceneBatch.Files.Bytes

/-!
# Binary containers

A binary container is a header of twelve bytes (a magic word, the version and the length of the
whole) and then chunks: the length of the data, a word for its kind, the data. The first chunk is
the JSON document, the second one, if there is one, holds the binary data.
-/

namespace SceneBatch

namespace Gltf

/-- A piece of a container. -/
structure Chunk where
  kind : Bytes
  data : Bytes
  deriving DecidableEq

namespace Chunk

/-- The kind of the chunk with the document. -/
def json : Bytes := Bytes.ofText "JSON"

/-- The kind of the chunk with the binary data. -/
def binary : Bytes := Bytes.ofText "BIN" ++ [0]

/-- The bytes of a chunk. -/
def toBytes (c : Chunk) : Bytes := Bytes.ofNat 4 c.data.length ++ c.kind ++ c.data

/-- Take a chunk off the front. -/
def take? (b : Bytes) : Option (Chunk × Bytes) :=
  let length := Bytes.toNat (b.take 4)
  let rest := b.drop 8
  if 8 ≤ b.length ∧ length ≤ rest.length then
    some (⟨(b.drop 4).take 4, rest.take length⟩, rest.drop length)
  else none

/-- The chunks that a byte string consists of, if it does; at most `fuel` of them. -/
def walk? : Nat → Bytes → Option (List Chunk)
  | _, [] => some []
  | 0, _ => none
  | fuel + 1, b => do
    let (chunk, rest) ← take? b
    return chunk :: (← walk? fuel rest)

end Chunk

/-- What a container holds. -/
structure Container where
  json : Bytes
  binary : Option Bytes

namespace Container

/-- The word that a container starts with. -/
def magic : Bytes := Bytes.ofText "glTF"

/-- The length of the header. -/
def headerLength : Nat := 12

/-- Whether a byte string starts like a container. -/
def starts (b : Bytes) : Bool := magic.isPrefixOf b

/-- The chunks of a container: the document padded with blanks, the binary data with zeros. -/
def chunks (c : Container) : List Chunk :=
  ⟨Chunk.json, c.json.padTo 4 32⟩ ::
    (c.binary.map fun b => ⟨Chunk.binary, b.padTo 4 0⟩).toList

/-- The bytes of a container. -/
def toBytes (c : Container) : Bytes :=
  let body := c.chunks.flatMap Chunk.toBytes
  magic ++ Bytes.ofNat 4 2 ++ Bytes.ofNat 4 (headerLength + body.length) ++ body

/-- The length that the header of a container gives. -/
def statedLength (b : Bytes) : Nat := Bytes.toNat ((b.drop 8).take 4)

/-- Read a container of version 2. Its chunks need not end where the header says, but the bytes
that the header promises must be there; what follows the second chunk is passed over. -/
def ofBytes? (b : Bytes) : Option Container := do
  let version := Bytes.toNat ((b.drop 4).take 4)
  let body := b.drop headerLength
  if b.length < headerLength ∨ ¬starts b ∨ version ≠ 2 ∨ statedLength b < headerLength ∨
      body.length < statedLength b - headerLength then none
  else
    let (first, rest) ← Chunk.take? body
    if first.kind ≠ Chunk.json then none
    else if rest.isEmpty then return ⟨first.data, none⟩
    else
      let (second, _) ← Chunk.take? rest
      if second.kind ≠ Chunk.binary then none else return ⟨first.data, some second.data⟩

end Container

end Gltf

end SceneBatch
