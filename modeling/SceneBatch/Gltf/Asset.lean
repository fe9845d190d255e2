import SceneBatch.Files.Tree
import SceneBatch.Gltf.Container
import SceneBatch.Gltf.Reader
import SceneBatch.Gltf.Validity
import SceneBatch.Json.Reader
import SceneBatch.Text.Base64
import SceneBatch.Text.Percent

/-!
# Assets

A document together with the bytes of its buffers. The bytes of a buffer stand in the document
itself, in the binary chunk of the container, or in a file next to the model.
-/

namespace SceneBatch

namespace Gltf

/-- Where the bytes of a buffer are. -/
inductive BufferPlace where
  | chunk
  | inline (text : List Char)
  | file (path : String)
  | beside (reference : String)
  | elsewhere
  deriving DecidableEq, Repr

namespace BufferPlace

/-- The text behind the first occurrence of a word and up to the next one. -/
def between? (word : List Char) : List Char → Option (List Char)
  | [] => none
  | c :: rest =>
    if word.isPrefixOf (c :: rest) then some (upTo ((c :: rest).drop word.length))
    else between? word rest
where
  /-- The text in front of the next occurrence of the word. -/
  upTo : List Char → List Char
    | [] => []
    | c :: rest => if word.isPrefixOf (c :: rest) then [] else c :: upTo rest

/-- The text behind a word at the start. -/
def after? (word : String) (cs : List Char) : Option (List Char) :=
  if word.toList.isPrefixOf cs then some (cs.drop word.length) else none

/-- The place that a reference names. Without a scheme it is a file beside the model. -/
def ofUri (uri : String) : BufferPlace :=
  let cs := uri.toList
  if ¬cs.contains ':' then .beside uri
  else
    match after? "data:" cs with
    | some data => .inline ((between? ";base64,".toList data).getD data)
    | none =>
      match (after? "file://" cs).or (after? "file:" cs) with
      | some path => .file (String.ofList path)
      | none => .elsewhere

/-- The place of a buffer's bytes. -/
def ofBuffer (b : Buffer) : BufferPlace :=
  match b.uri with
  | some uri => ofUri uri
  | none => .chunk

/-- The bytes at a place, where `directory` is that of the model and `chunk` what is left of the
binary chunk. -/
def read? (files : FileTree) (directory : Path) (chunk : Option Bytes) :
    BufferPlace → Option Bytes
  | .chunk => chunk
  | .inline text => Base64.decode? text
  | .file path => (files.read ⟨path⟩).toOption
  | .beside reference => do (files.read (directory.join (← Percent.decode? reference))).toOption
  | .elsewhere => none

end BufferPlace

/-- The bytes of buffers, padded with zeros to whole words and then at least as long as the
buffers say. The binary chunk serves one buffer only. -/
def readBuffers (files : FileTree) (directory : Path) (chunk : Option Bytes) :
    List Buffer → Option (List Bytes)
  | [] => some []
  | b :: rest => do
    let place := BufferPlace.ofBuffer b
    let data := (← place.read? files directory chunk).padTo 4 0
    if data.length < b.length then none
    else
      let chunk := if place = .chunk then none else chunk
      return data :: (← readBuffers files directory chunk rest)

/-- A document with the bytes of its buffers. -/
structure Asset where
  document : Document
  buffers : List Bytes

namespace Asset

/-- The document in a file's bytes, and the binary chunk. A container is told by its first
bytes. -/
def readDocument (b : Bytes) : Except ModelFlaw (Document × Option Bytes) := do
  let ⟨json, binary⟩ ←
    if Container.starts b then
      match Container.ofBytes? b with
      | some c => pure c
      | none => throw .badContainer
    else pure ⟨b, none⟩
  match (RawJson.ofBytes? json).bind Document.ofJson? with
  | none => throw .notDocument
  | some d => if d.isValid then return (d, binary) else throw .invalid

/-- Read an asset from a file's bytes. Files beside it are looked for in `directory`. -/
def ofBytes (files : FileTree) (directory : Path) (b : Bytes) : Except ModelFlaw Asset := do
  let (document, binary) ← readDocument b
  match readBuffers files directory binary document.buffers with
  | none => throw .missingData
  | some buffers => return ⟨document, buffers⟩

variable (a : Asset)

/-- The bytes of a buffer view; none where the buffer is too short. -/
def viewBytes? (v : View) : Option Bytes := do
  (← a.buffers[v.buffer]?).slice? v.offset v.length

/-- The bytes of the first `count` elements of `size` bytes each, `stride` bytes apart. -/
def pick (size stride : Nat) : Nat → Bytes → List Bytes
  | 0, _ => []
  | count + 1, b => b.take size :: pick size stride count (b.drop stride)

/-- The bytes of `count` elements of `size` bytes each in a buffer view from an offset on; none
where the view is too short. -/
def run? (view offset count size : Nat) : Option (List Bytes) := do
  let v ← a.document.views[view]?
  let stride := v.stride.getD size
  let length := if count = 0 then 0 else stride * (count - 1) + size
  return pick size stride count (← (← a.viewBytes? v).slice? offset length)

/-- Replace elements of a list that starts at `place`. The replacements are tried in order, so one
for an earlier place holds up those behind it. -/
def replace (place : Nat) (replacements : List (Nat × Bytes)) : List Bytes → List Bytes
  | [] => []
  | e :: rest =>
    match replacements with
    | (i, value) :: others =>
      if i = place then value :: replace (place + 1) others rest
      else e :: replace (place + 1) replacements rest
    | [] => e :: rest

/-- The bytes of an accessor's elements of `size` bytes each; none where data is missing. -/
def elements? (x : Accessor) (size : Nat) : Option (List Bytes) := do
  let base ← match x.view with
    | some view => a.run? view x.offset x.count size
    | none =>
      if x.sparse.isSome then some (List.replicate x.count (List.replicate size 0)) else none
  match x.sparse with
  | none => return base
  | some s =>
    let places ← a.run? s.placeView s.placeOffset s.count s.placeType.size
    let values ← a.run? s.valueView s.valueOffset s.count size
    return replace 0 ((places.map Bytes.toNat).zip values) base

/-! ### Typed elements -/

/-- The single-precision numbers of each element of an accessor. -/
def singles? (x : Accessor) (width : Nat) : Option (List (List Float32)) := do
  let elements ← a.elements? x (4 * width)
  return elements.map fun e => (e.pieces 4).map Bytes.toSingle

/-- The natural numbers of each element of an accessor. -/
def naturals? (x : Accessor) (width : Nat) : Option (List (List Nat)) := do
  let size := x.component.size
  let elements ← a.elements? x (size * width)
  return elements.map fun e => (e.pieces size).map Bytes.toNat

/-- The number that a component stands for: integers cover the interval from -1, or from 0 if they
have no sign, to 1. -/
def fraction (component : ComponentType) (b : Bytes) : Float32 :=
  let n := Bytes.toNat b
  match component with
  | .uint8 => Single.ofInt n * (1 / 255)
  | .uint16 => Single.ofInt n * (1 / 65535)
  | .int8 => Single.larger (Single.ofInt (Int.bmod n 256) * (1 / 127)) (-1)
  | .int16 => Single.larger (Single.ofInt (Int.bmod n 65536) * (1 / 32767)) (-1)
  | .uint32 => Single.ofInt n
  | .float32 => Bytes.toSingle b

/-- The fractions of each element of an accessor. -/
def fractions? (x : Accessor) (width : Nat) : Option (List (List Float32)) := do
  let size := x.component.size
  let elements ← a.elements? x (size * width)
  return elements.map fun e => (e.pieces size).map (fraction x.component)

end Asset

end Gltf

end SceneBatch
