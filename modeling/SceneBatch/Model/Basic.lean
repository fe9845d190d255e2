import SceneBatch.Gltf.Asset
import SceneBatch.Model.Format
import SceneBatch.Model.ImageName
import SceneBatch.Text.Quoted

/-!
# Models

A model is an asset with the name it is known by and the path it was read from. Its images are
textures with names of their own, and each primitive has at most one texture as its base color.
-/

namespace SceneBatch

/-- A loaded model. -/
structure Model where
  name : String
  path : Path
  asset : Gltf.Asset

namespace Model

/-- Read a model from a file's bytes. A file of the binary format must be a container. -/
def ofBytes (files : FileTree) (name : String) (bytes : Bytes) (format : ModelFormat)
    (path : Path) : Except Fault Model :=
  if format = .binary ∧ ¬Gltf.Container.starts bytes then
    .error (.importing (.notBinaryContainer path.text))
  else
    match Gltf.Asset.ofBytes files path.parent bytes with
    | .error flaw => .error (.importing (.flawed path.text flaw))
    | .ok asset => .ok { name, path, asset }

variable (m : Model)

/-- The document of a model. -/
abbrev document : Gltf.Document := m.asset.document

/-- The directory that a model's textures are in. -/
def directory : Path := m.path.parent

/-- The bytes of a buffer view. -/
def viewBytes? (view : Nat) : Option Bytes := do m.asset.viewBytes? (← m.document.views[view]?)

/-- The name of the texture in an image: an image file's name without its extension, otherwise the
image's own name, otherwise one made from the model's name and the image's place. -/
def textureName (image : Nat) (i : Gltf.Image) : String :=
  match i.place with
  | .uri uri => ImageName.stripExtension uri
  | _ => i.name.getD s!"{ImageName.stripExtension m.name}#image{image}"

/-- The name of the texture in the image at a place. -/
def textureNameAt? (image : Nat) : Option String := do
  return m.textureName image (← m.document.images[image]?)

/-- The images that textures show, with their places, in the order of the textures. -/
def shownImages : List (Nat × Gltf.Image) :=
  m.document.textures.filterMap fun t => (m.document.images[t.source]?).map (t.source, ·)

/-- Whether an image is named like a base color. -/
def isBaseColor (i : Gltf.Image) : Bool :=
  match i.place with
  | .uri uri => ImageName.isBaseColor uri
  | _ => i.name.any ImageName.isBaseColor

/-- The base color that a primitive's material asks for. -/
def materialTexture? (p : Gltf.Primitive) : Option String := do
  let material ← m.document.materials[← p.material]?
  let texture ← m.document.textures[← material.baseColor]?
  m.textureNameAt? texture.source

/-- The base color of a primitive: that of its material, otherwise the first one that the
document shows under the name of a base color. -/
def baseColorTexture? (p : Gltf.Primitive) : Option String :=
  (m.materialTexture? p).or
    ((m.shownImages.find? (isBaseColor ·.2)).map fun (place, i) => m.textureName place i)

/-- Whether a model has a skin. -/
def hasSkin : Bool := !m.document.skins.isEmpty

/-- A line that tells what a model is. -/
def summary : String :=
  "ModelDocument \x7b name: " ++ Quoted.quote m.name ++ ", path: " ++ Quoted.quote m.path.text ++
    s!", meshes: {m.document.meshes.length}, buffers: {m.asset.buffers.length} \x7d"

end Model

end SceneBatch
