import SceneBatch.Gltf.Document
import SceneBatch.Gltf.Reader.Basic

/-!
# Reading accessors, buffer views and buffers
-/

namespace SceneBatch

namespace Gltf

/-- The component types by their codes. -/
def componentCodes : List (Nat × ComponentType) :=
  [(5120, .int8), (5121, .uint8), (5122, .int16), (5123, .uint16), (5125, .uint32),
   (5126, .float32)]

/-- The component types of the places of sparse replacements. -/
def placeCodes : List (Nat × ComponentType) :=
  [(5121, .uint8), (5123, .uint16), (5125, .uint32)]

/-- The shapes of elements by their names. -/
def shapeWords : List (String × ElementShape) :=
  [("SCALAR", .scalar), ("VEC2", .vec2), ("VEC3", .vec3), ("VEC4", .vec4), ("MAT2", .mat2),
   ("MAT3", .mat3), ("MAT4", .mat4)]

/-- Where the values or places of sparse replacements are: the view and the offset. -/
def readSparsePart (r : JsonRecord) : Option (Nat × Nat) := do
  return (← r.requiredField "bufferView" readIndex, ← r.field "byteOffset" RawJson.toNat? 0)

/-- Sparse replacements. -/
def readSparse (v : RawJson) : Option Sparse := do
  let r ← readRecord ["count", "indices", "values", "extensions", "extras"] 3 v
  let places ← r.requiredField "indices"
    (readRecord ["bufferView", "byteOffset", "componentType", "extensions", "extras"] 3)
  let values ← r.requiredField "values"
    (readRecord ["bufferView", "byteOffset", "extensions", "extras"] 1)
  let (placeView, placeOffset) ← readSparsePart places
  let (valueView, valueOffset) ← readSparsePart values
  return { placeView, placeOffset, valueView, valueOffset
           count := ← r.requiredField "count" RawJson.toNat?
           placeType := ← places.requiredField "componentType" (readCode placeCodes) }

/-- How deep a bound may nest, three levels below the document. -/
def maxBoundNesting : Nat := RawJson.maxNesting - 3

/-- A smallest or largest element: any value, of which three numbers are a bound. -/
def readBound (v : RawJson) : Option Bool := do
  match ← v.value? RawJson.maxTexts maxBoundNesting with
  | .array [.number _, .number _, .number _] => return true
  | _ => return false

/-- An accessor. -/
def readAccessor (v : RawJson) : Option Accessor := do
  let r ← readRecord ["bufferView", "byteOffset", "count", "componentType", "extensions", "extras",
    "type", "min", "max", "name", "normalized", "sparse"] 10 v
  let _ ← r.optionalField "name" RawJson.toText?
  let min ← r.optionalField "min" readBound
  let max ← r.optionalField "max" readBound
  return { view := ← r.optionalField "bufferView" readIndex
           offset := (← r.optionalField "byteOffset" RawJson.toNat?).getD 0
           count := ← r.requiredField "count" RawJson.toNat?
           component := ← r.requiredField "componentType" (readCode componentCodes)
           shape := ← r.requiredField "type" (readWord shapeWords)
           isNormalized := ← r.field "normalized" RawJson.toBool? false
           sparse := ← r.optionalField "sparse" readSparse
           isBounded := min.getD false && max.getD false }

/-- A buffer view. -/
def readView (v : RawJson) : Option View := do
  let r ← readRecord ["buffer", "byteLength", "byteOffset", "byteStride", "name", "target",
    "extensions", "extras"] 6 v
  let _ ← r.optionalField "name" RawJson.toText?
  let _ ← r.optionalField "target" (readCode [(34962, ()), (34963, ())])
  return { buffer := ← r.requiredField "buffer" readIndex
           offset := (← r.optionalField "byteOffset" RawJson.toNat?).getD 0
           length := ← r.requiredField "byteLength" RawJson.toNat?
           stride := ← r.optionalField "byteStride" RawJson.toNat? }

/-- A buffer. -/
def readBuffer (v : RawJson) : Option Buffer := do
  let r ← readRecord ["byteLength", "name", "uri", "extensions", "extras"] 3 v
  let _ ← r.optionalField "name" RawJson.toText?
  return { length := ← r.field "byteLength" RawJson.toNat? 0
           uri := ← r.optionalField "uri" RawJson.toText? }

end Gltf

end SceneBatch
