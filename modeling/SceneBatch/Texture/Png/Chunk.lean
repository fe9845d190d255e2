import SceneBatch.Files.Bytes

/-!
# Chunks of a PNG

Behind its signature a PNG is a row of chunks: a length, a kind, the data, and a checksum of kind
and data.
-/

namespace SceneBatch

namespace Png

/-- The number whose bytes are given, highest first. -/
def bigEndian (b : Bytes) : Nat := Bytes.toNat b.reverse

/-- One bit of the remainder that a checksum is. -/
def checkBit (c : UInt32) : UInt32 :=
  if c &&& 1 = 1 then (0xEDB88320 : UInt32) ^^^ (c >>> 1) else c >>> 1

/-- The checksum of a chunk. -/
def checksum (b : Bytes) : UInt32 :=
  let step (c : UInt32) (byte : UInt8) : UInt32 :=
    (List.range 8).foldl (fun c _ => checkBit c) (c ^^^ byte.toUInt32)
  ~~~ (b.foldl step 0xFFFFFFFF)

/-- What a chunk is for. Whoever does not know an ancillary chunk may pass it over. -/
inductive ChunkKind where
  | header
  | palette
  | transparency
  | frame
  | frameData
  | data
  | ending
  | ancillary
  | critical
  deriving DecidableEq, Repr

namespace ChunkKind

/-- The kinds by their names. -/
def names : List (String × ChunkKind) :=
  [("IHDR", header), ("PLTE", palette), ("tRNS", transparency), ("fcTL", frame),
   ("fdAT", frameData), ("IDAT", data), ("IEND", ending)]

/-- The kind with a name of four bytes. In an unknown name the case of the first letter, which is
one bit, tells whether the chunk is ancillary. -/
def ofName (name : Bytes) : ChunkKind :=
  match names.find? fun k => Bytes.ofText k.1 = name with
  | some (_, kind) => kind
  | none => if name.headD 0 &&& 0x20 = 0 then critical else ancillary

end ChunkKind

/-- A piece of a PNG; `isIntact` says that its checksum is right. -/
structure Chunk where
  kind : ChunkKind
  data : Bytes
  isIntact : Bool

namespace Chunk

/-- The number of bytes that stand in front of a chunk's data. -/
def frontLength : Nat := 8

/-- The kind of the chunk at the front, of which no more has to be there. -/
def kindAt? (b : Bytes) : Option ChunkKind :=
  if b.length < frontLength then none else some (.ofName ((b.drop 4).take 4))

/-- Take a chunk off the front. -/
def take? (b : Bytes) : Option (Chunk × Bytes) := do
  let kind ← kindAt? b
  let length := bigEndian (b.take 4)
  let body ← b.slice? 4 (4 + length)
  let check ← b.slice? (frontLength + length) 4
  let isIntact := (checksum body).toNat = bigEndian check
  return (⟨kind, body.drop 4, isIntact⟩, b.drop (frontLength + length + 4))

end Chunk

end Png

end SceneBatch
