import SceneBatch.Gltf.Document
import SceneBatch.Gltf.Reader.Basic

/-!
# Reading images, textures and materials
-/

namespace SceneBatch

namespace Gltf

/-- An image. One in a buffer view is there, even if it also names a file. -/
def readImage (v : RawJson) : Option Image := do
  let r ← readRecord ["bufferView", "mimeType", "name", "uri", "extensions", "extras"] 4 v
  let _ ← r.optionalField "mimeType" RawJson.toText?
  let view ← r.optionalField "bufferView" readIndex
  let uri ← r.optionalField "uri" RawJson.toText?
  return { name := ← r.optionalField "name" RawJson.toText?
           place := match view, uri with
             | some view, _ => .view view
             | none, some uri => .uri uri
             | none, none => .nowhere }

/-- A texture. -/
def readTexture (v : RawJson) : Option Texture := do
  let r ← readRecord ["name", "sampler", "source", "extensions", "extras"] 3 v
  let _ ← r.optionalField "name" RawJson.toText?
  return { source := ← r.requiredField "source" readIndex
           sampler := ← r.optionalField "sampler" readIndex }

/-- A sampler of textures, of which nothing is kept. -/
def readTextureSampler (v : RawJson) : Option Unit := do
  let r ← readRecord ["magFilter", "minFilter", "name", "wrapS", "wrapT", "extensions", "extras"] 0
    v
  let magnifying := [(9728, ()), (9729, ())]
  let minifying := magnifying ++ [(9984, ()), (9985, ()), (9986, ()), (9987, ())]
  let wrapping := [(33071, ()), (33648, ()), (10497, ())]
  let _ ← r.optionalField "magFilter" (readCode magnifying)
  let _ ← r.optionalField "minFilter" (readCode minifying)
  let _ ← r.optionalField "name" RawJson.toText?
  r.field "wrapS" (readCode wrapping) ()
  r.field "wrapT" (readCode wrapping) ()

/-- A reference to a texture with a number that says how strongly it acts. -/
def readTextureUse (names : List String) (strength : String) (v : RawJson) : Option Nat := do
  let r ← readRecord names 1 v
  let _ ← r.field "texCoord" readShort 0
  let _ ← r.field strength RawJson.toSingle? 1
  r.requiredField "index" readIndex

/-- A reference to a texture of normals. -/
def readNormals (v : RawJson) : Option Nat :=
  readTextureUse ["index", "scale", "texCoord", "extensions", "extras"] "scale" v

/-- A reference to a texture of shadows. -/
def readOcclusion (v : RawJson) : Option Nat :=
  readTextureUse ["index", "strength", "texCoord", "extensions", "extras"] "strength" v

/-- A plain reference to a texture. -/
def readTextureInfo (v : RawJson) : Option Nat := do
  let r ← readRecord ["index", "texCoord", "extensions", "extras"] 1 v
  let _ ← r.field "texCoord" readShort 0
  r.requiredField "index" readIndex

/-- The textures of a material's surface: the base color and the others. -/
def readSurface (v : RawJson) : Option (Option Nat × List Nat) := do
  let r ← readRecord ["baseColorFactor", "baseColorTexture", "metallicFactor", "roughnessFactor",
    "metallicRoughnessTexture", "extensions", "extras"] 0 v
  let _ ← r.field "baseColorFactor" (·.toSingles? 4) []
  let _ ← r.field "metallicFactor" RawJson.toSingle? 1
  let _ ← r.field "roughnessFactor" RawJson.toSingle? 1
  return (← r.optionalField "baseColorTexture" readTextureInfo,
    (← r.optionalField "metallicRoughnessTexture" readTextureInfo).toList)

/-- A material. -/
def readMaterial (v : RawJson) : Option Material := do
  let r ← readRecord ["alphaCutoff", "alphaMode", "doubleSided", "name", "pbrMetallicRoughness",
    "normalTexture", "occlusionTexture", "emissiveTexture", "emissiveFactor", "extensions",
    "extras"] 0 v
  let _ ← r.optionalField "alphaCutoff" RawJson.toSingle?
  let _ ← r.field "alphaMode" (readWord [("OPAQUE", ()), ("MASK", ()), ("BLEND", ())]) ()
  let _ ← r.field "doubleSided" RawJson.toBool? false
  let _ ← r.optionalField "name" RawJson.toText?
  let _ ← r.field "emissiveFactor" (·.toSingles? 3) []
  let (baseColor, others) ← r.field "pbrMetallicRoughness" readSurface (none, [])
  let normals ← r.optionalField "normalTexture" readNormals
  let occlusion ← r.optionalField "occlusionTexture" readOcclusion
  let emissive ← r.optionalField "emissiveTexture" readTextureInfo
  return { baseColor, others := others ++ normals.toList ++ occlusion.toList ++ emissive.toList }

end Gltf

end SceneBatch
