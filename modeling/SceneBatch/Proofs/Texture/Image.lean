import SceneBatch.Proofs.Batch.Calls
import SceneBatch.Texture.Source

/-!
# Images of a model

The base color of a primitive is the name of an image, which a material asks for or which is named
like a base color (`Model.baseColorImage?`). It is one of the images of the document, and all of
these are textures of the model, each with a source of its own.
-/

namespace SceneBatch

open Batch

namespace Model

variable (m : Model)

/-- The image that a primitive's material asks for, with its place. -/
def materialImage? (p : Gltf.Primitive) : Option (Nat × Gltf.Image) := do
  let material ← m.document.materials[← p.material]?
  let texture ← m.document.textures[← material.baseColor]?
  (m.document.images[texture.source]?).map (texture.source, ·)

/-- The image that is the base color of a primitive, with its place. -/
def baseColorImage? (p : Gltf.Primitive) : Option (Nat × Gltf.Image) :=
  (m.materialImage? p).or (m.shownImages.find? (isBaseColor ·.2))

/-- The image that a node's mesh chooses: that of the first of its primitives that has one. -/
def nodeImage? (node : Nat) : Option (Nat × Gltf.Image) := do
  (← nodeMesh? m.document node).primitives.findSome? m.baseColorImage?

/-- The source that the document gives for an image. -/
def ownSource (extension : String) (place : Nat) (i : Gltf.Image) : TextureSource :=
  ⟨m.directory.join s!"{m.textureName place i}.{extension}", m.imageSource? i⟩

theorem map_materialImage? (p : Gltf.Primitive) :
    (m.materialImage? p).map (fun x => m.textureName x.1 x.2) = m.materialTexture? p := by
  have hname : ∀ image,
      m.textureNameAt? image = (m.document.images[image]?).map (m.textureName image) :=
    fun image => Option.map_eq_bind.symm
  simp [materialImage?, materialTexture?, hname, Option.map_bind, Function.comp_def]

theorem map_baseColorImage? (p : Gltf.Primitive) :
    (m.baseColorImage? p).map (fun x => m.textureName x.1 x.2) = m.baseColorTexture? p := by
  rw [baseColorImage?, baseColorTexture?, Option.map_or, map_materialImage?]

variable {m} {place : Nat} {i : Gltf.Image}

theorem getElem?_of_shownImages (h : (place, i) ∈ m.shownImages) :
    m.document.images[place]? = some i := by
  obtain ⟨texture, -, hshown⟩ := List.mem_filterMap.mp h
  obtain ⟨i', hi', heq⟩ := Option.map_eq_some_iff.mp hshown
  cases heq
  exact hi'

/-- A chosen image is an image of the document. -/
theorem getElem?_of_baseColorImage? {p : Gltf.Primitive}
    (h : m.baseColorImage? p = some (place, i)) : m.document.images[place]? = some i := by
  rcases Option.or_eq_some_iff.mp h with h | ⟨-, h⟩
  · obtain ⟨_, -, h⟩ := Option.bind_eq_some_iff.mp h
    obtain ⟨material, -, h⟩ := Option.bind_eq_some_iff.mp h
    obtain ⟨_, -, h⟩ := Option.bind_eq_some_iff.mp h
    obtain ⟨texture, -, h⟩ := Option.bind_eq_some_iff.mp h
    obtain ⟨i', hi', heq⟩ := Option.map_eq_some_iff.mp h
    cases heq
    exact hi'
  · exact getElem?_of_shownImages (List.mem_of_find?_eq_some h)

theorem getElem?_of_nodeImage? {node : Nat} (h : m.nodeImage? node = some (place, i)) :
    m.document.images[place]? = some i := by
  obtain ⟨mesh, -, h⟩ := Option.bind_eq_some_iff.mp h
  obtain ⟨p, -, hp⟩ := List.exists_of_findSome?_eq_some h
  exact getElem?_of_baseColorImage? hp

/-! ### Textures -/

/-- The names of the textures of a model. -/
def textureNames (m : Model) : List String :=
  m.document.images.zipIdx.map fun (i, place) => m.textureName place i

theorem map_fst_textures (m : Model) (extension : String) :
    (m.textures extension).map Prod.fst = m.textureNames := by
  rw [textures, List.map_map]
  rfl

theorem textureName_mem (h : m.document.images[place]? = some i) :
    m.textureName place i ∈ m.textureNames :=
  List.mem_map.mpr ⟨(i, place), List.mk_mem_zipIdx_iff_getElem?.mpr h, rfl⟩

/-- The base color of a primitive is one of the model's textures. -/
theorem baseColorTexture?_mem {p : Gltf.Primitive} {name : String}
    (h : m.baseColorTexture? p = some name) : name ∈ m.textureNames := by
  rw [← map_baseColorImage?] at h
  obtain ⟨⟨place, i⟩, himage, rfl⟩ := Option.map_eq_some_iff.mp h
  exact textureName_mem (getElem?_of_baseColorImage? himage)

theorem getElem?_textures (h : m.document.images[place]? = some i) (extension : String) :
    (m.textures extension)[place]? =
      some (m.textureName place i, m.ownSource extension place i) := by
  rw [textures, List.getElem?_map, List.getElem?_zipIdx, h, Option.map_some, Option.map_some,
    Nat.zero_add]
  rfl

end Model

/-- The base color of a node is the name of the image that it chooses. -/
theorem Batch.exists_nodeImage? {models : ModelLibrary} {key : MeshKey} {name : String}
    (h : baseColor? models key = some name) :
    ∃ m place i, models.find? key.model = some m ∧ m.nodeImage? key.node = some (place, i) ∧
      m.textureName place i = name := by
  obtain ⟨m, hm, h⟩ := Option.bind_eq_some_iff.mp h
  obtain ⟨mesh, hmesh, h⟩ := Option.bind_eq_some_iff.mp h
  have hfind : (mesh.primitives.findSome? m.baseColorImage?).map
      (fun x => m.textureName x.1 x.2) = some name := by
    rw [← h, List.map_findSome?]
    exact congrArg (fun f => mesh.primitives.findSome? f) (funext m.map_baseColorImage?)
  obtain ⟨⟨place, i⟩, hi, hname⟩ := Option.map_eq_some_iff.mp hfind
  refine ⟨m, place, i, hm, ?_, hname⟩
  rw [Model.nodeImage?, hmesh]
  exact hi

end SceneBatch
