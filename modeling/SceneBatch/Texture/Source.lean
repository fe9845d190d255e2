import SceneBatch.Model.Basic

/-!
# Sources of textures

The pixels of a texture are looked for in two places: a file in the device's own format, which
lies next to the model and is named for the texture, and then the image that the model itself
refers to.
-/

namespace SceneBatch

/-- An image that a model refers to: a file, or bytes in one of the model's buffers. -/
inductive ImageSource where
  | file (path : Path)
  | bytes (b : Bytes)
  deriving DecidableEq

/-- Where the pixels of a texture come from. -/
structure TextureSource where
  native : Path
  fallback : Option ImageSource
  deriving DecidableEq

namespace Model

variable (m : Model)

/-- The source of an image's pixels. An image inside the document's text has none. -/
def imageSource? (i : Gltf.Image) : Option ImageSource :=
  match i.place with
  | .uri uri => if uri.startsWith "data:" then none else some (.file (m.directory.join uri))
  | .view view => (m.viewBytes? view).map .bytes
  | .nowhere => none

/-- The textures of a model with their names, one for each image; `extension` is that of files in
the device's own format. -/
def textures (extension : String) : List (String × TextureSource) :=
  m.document.images.zipIdx.map fun (i, place) =>
    let name := m.textureName place i
    (name, ⟨m.directory.join s!"{name}.{extension}", m.imageSource? i⟩)

end Model

end SceneBatch
