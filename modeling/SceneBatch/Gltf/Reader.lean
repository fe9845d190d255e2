import SceneBatch.Gltf.Reader.Clip
import SceneBatch.Gltf.Reader.Data
import SceneBatch.Gltf.Reader.Material
import SceneBatch.Gltf.Reader.Mesh
import SceneBatch.Gltf.Reader.Node

/-!
# Reading glTF documents

`Gltf.Document.ofJson?` finds the document in a JSON text: required members are there, every
known member has its type, and names stand for one of the things they can name. Whether the
references lead anywhere is the affair of `Gltf.Document.isValid`.
-/

namespace SceneBatch

namespace Gltf

/-- The description of a document, of which only the presence of a version counts. -/
def readAsset (v : RawJson) : Option String := do
  let r ← readRecord ["copyright", "extensions", "extras", "generator", "minVersion",
    "version"] 6 v
  let _ ← r.optionalField "copyright" RawJson.toText?
  let _ ← r.optionalField "generator" RawJson.toText?
  let _ ← r.optionalField "minVersion" RawJson.toText?
  r.requiredField "version" RawJson.toText?

/-- The document in a JSON text. None of the extensions that a document may require is known. -/
def Document.ofJson? (v : RawJson) : Option Document := do
  let r ← readRecord ["accessors", "animations", "asset", "buffers", "bufferViews", "scene",
    "extensions", "extras", "extensionsUsed", "extensionsRequired", "cameras", "images",
    "materials", "meshes", "nodes", "samplers", "scenes", "skins", "textures"] 6 v
  let _ ← r.requiredField "asset" readAsset
  let _ ← readItems r "extensionsUsed" RawJson.toText?
  let required ← readItems r "extensionsRequired" RawJson.toText?
  if required ≠ [] then none
  else
    return { accessors := ← readItems r "accessors" readAccessor
             views := ← readItems r "bufferViews" readView
             buffers := ← readItems r "buffers" readBuffer
             images := ← readItems r "images" readImage
             textures := ← readItems r "textures" readTexture
             materials := ← readItems r "materials" readMaterial
             meshes := ← readItems r "meshes" readMesh
             nodes := ← readItems r "nodes" readNode
             scenes := ← readItems r "scenes" readScene
             scene := ← r.optionalField "scene" readIndex
             skins := ← readItems r "skins" readSkin
             clips := ← readItems r "animations" readClip
             cameras := (← readItems r "cameras" readCamera).length
             samplers := (← readItems r "samplers" readTextureSampler).length }

end Gltf

end SceneBatch
