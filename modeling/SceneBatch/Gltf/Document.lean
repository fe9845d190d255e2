import SceneBatch.Geometry.Pose

/-!
# glTF documents

What a glTF document says about scenes, nodes, meshes, materials, skins and clips, as far as
drawing needs it. Things refer to one another by their places in the document's lists.
-/

namespace SceneBatch

namespace Gltf

/-- How one component of an element is stored. -/
inductive ComponentType where
  | int8
  | uint8
  | int16
  | uint16
  | uint32
  | float32
  deriving DecidableEq, Repr

namespace ComponentType

/-- The number of bytes of a component. -/
def size : ComponentType → Nat
  | int8 | uint8 => 1
  | int16 | uint16 => 2
  | uint32 | float32 => 4

end ComponentType

/-- How many components an element has. -/
inductive ElementShape where
  | scalar
  | vec2
  | vec3
  | vec4
  | mat2
  | mat3
  | mat4
  deriving DecidableEq, Repr

/-- Replacements for some elements of an accessor: their places and their values. -/
structure Sparse where
  count : Nat
  placeView : Nat
  placeOffset : Nat
  placeType : ComponentType
  valueView : Nat
  valueOffset : Nat

/-- A list of elements in a buffer view. Normalized integers stand for fractions; `isBounded` says
that the smallest and the largest element are given, with three components each. -/
structure Accessor where
  view : Option Nat
  offset : Nat
  count : Nat
  component : ComponentType
  shape : ElementShape
  isNormalized : Bool
  sparse : Option Sparse
  isBounded : Bool

/-- A part of a buffer. -/
structure View where
  buffer : Nat
  offset : Nat
  length : Nat
  stride : Option Nat

/-- A run of bytes: in a file, in the document, or in the binary chunk of the container. -/
structure Buffer where
  length : Nat
  uri : Option String

/-- Where the pixels of an image are. -/
inductive ImagePlace where
  | uri (uri : String)
  | view (view : Nat)
  | nowhere
  deriving DecidableEq, Repr

/-- An image. -/
structure Image where
  name : Option String
  place : ImagePlace

/-- A texture: an image with a way of sampling it. -/
structure Texture where
  source : Nat
  sampler : Option Nat

/-- A material by its textures. -/
structure Material where
  baseColor : Option Nat
  others : List Nat

/-- What a vertex attribute means. -/
inductive Semantic where
  | position
  | normal
  | tangent
  | color (set : Nat)
  | texcoord (set : Nat)
  | joints (set : Nat)
  | weights (set : Nat)
  deriving DecidableEq, Repr

/-- How the vertices of a primitive are joined. -/
inductive PrimitiveMode where
  | points
  | lines
  | lineLoop
  | lineStrip
  | triangles
  | triangleStrip
  | triangleFan
  deriving DecidableEq, Repr

/-- A part of a mesh with one material. `morphs` are the accessors of its morph targets. -/
structure Primitive where
  attributes : List (Semantic × Nat)
  indices : Option Nat
  material : Option Nat
  mode : PrimitiveMode
  morphs : List Nat

namespace Primitive

/-- The accessor of an attribute. -/
def attribute? (p : Primitive) (semantic : Semantic) : Option Nat := p.attributes.lookup semantic

end Primitive

/-- A mesh. -/
structure Mesh where
  name : Option String
  primitives : List Primitive

/-- A node: what is drawn there, its children and its place. -/
structure Node where
  name : Option String
  mesh : Option Nat
  skin : Option Nat
  camera : Option Nat
  children : List Nat
  pose : LocalPose Float32

/-- A skin: its joints, and the accessor of their inverse bind matrices. -/
structure Skin where
  joints : List Nat
  inverseBinds : Option Nat
  skeleton : Option Nat

/-- The property that a channel animates. -/
inductive Property where
  | position
  | rotation
  | scale
  | weights
  deriving DecidableEq, Repr

/-- How a sampler's values are joined. -/
inductive SamplerMode where
  | linear
  | step
  | cubicSpline
  deriving DecidableEq, Repr

/-- The accessors of a channel's times and values. -/
structure ClipSampler where
  input : Nat
  output : Nat
  mode : SamplerMode

/-- What a clip does to one property of one node. -/
structure Channel where
  sampler : Nat
  node : Nat
  property : Option Property

/-- A clip. -/
structure Clip where
  name : Option String
  channels : List Channel
  samplers : List ClipSampler

namespace Node

/-- A node that says nothing. -/
def empty : Node := ⟨none, none, none, none, [], .identity⟩

end Node

/-- A document. Of cameras and texture samplers only their number is kept. -/
structure Document where
  accessors : List Accessor := []
  views : List View := []
  buffers : List Buffer := []
  images : List Image := []
  textures : List Texture := []
  materials : List Material := []
  meshes : List Mesh := []
  nodes : List Node := []
  scenes : List (List Nat) := []
  scene : Option Nat := none
  skins : List Skin := []
  clips : List Clip := []
  cameras : Nat := 0
  samplers : Nat := 0

namespace Document

/-- The node at a place; past the last one there are only empty nodes. -/
def node (d : Document) (place : Nat) : Node := d.nodes[place]?.getD .empty

/-- The roots of the default scene. -/
def defaultRoots? (d : Document) : Option (List Nat) := do d.scenes[← d.scene]?

end Document

end Gltf

end SceneBatch
