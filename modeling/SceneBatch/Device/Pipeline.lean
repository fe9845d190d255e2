import SceneBatch.Device.Buffer

/-!
# The pipeline

How the vertex buffers, the bindings and the targets of a pass are put together, as the device is
told when the pipeline is made.
-/

namespace SceneBatch

/-- The stages of a pipeline that programs run in. -/
inductive ShaderStage where
  | vertex
  | fragment
  deriving DecidableEq, Repr

namespace ShaderStage

/-- The name of a stage. -/
def label : ShaderStage → String
  | vertex => "VERTEX"
  | fragment => "FRAGMENT"

end ShaderStage

/-- What stands behind a binding. -/
inductive BindingKind where
  | uniform
  | storage
  | layers
  | sampler
  deriving DecidableEq, Repr

namespace BindingKind

/-- A buffer binding in full. -/
def bufferText (kind : String) : String :=
  "Buffer \x7b ty: " ++ kind ++ ", has_dynamic_offset: false, min_binding_size: None \x7d"

/-- A binding in full. -/
def text : BindingKind → String
  | uniform => bufferText "Uniform"
  | storage => bufferText "Storage \x7b read_only: true \x7d"
  | layers =>
    "Texture \x7b sample_type: Float \x7b filterable: true \x7d, view_dimension: D2Array, " ++
      "multisampled: false \x7d"
  | sampler => "Sampler(Filtering)"

end BindingKind

/-- One binding of a group: the stages that see it and what it is. -/
structure Binding where
  stages : List ShaderStage
  kind : BindingKind

/-- A group of bindings, numbered from zero. -/
structure BindingLayout where
  label : String
  bindings : List Binding

/-- How one vertex attribute is stored. -/
structure VertexSlot where
  role : BufferRole
  format : String

/-- The formats of what a frame is drawn into. -/
inductive ColorFormat where
  | rgbaSrgb
  | bgra
  deriving DecidableEq, Repr

namespace ColorFormat

/-- The name of a format. -/
def label : ColorFormat → String
  | rgbaSrgb => "Rgba8UnormSrgb"
  | bgra => "Bgra8Unorm"

end ColorFormat

namespace Pipeline

/-- The name of the pipeline. -/
def label : String := "Batched Mesh Pipeline"

/-- The name of the pipeline's layout. -/
def layoutLabel : String := "Batched Mesh Pipeline Layout"

/-- The name of the programs. -/
def shaderLabel : String := "Batched Mesh Shader"

/-- The program of a stage. -/
def entryPoint : ShaderStage → String
  | .vertex => "vs_main"
  | .fragment => "fs_main"

/-- The stages that see a buffer, and how. -/
def frameBinding : BufferRole → Binding
  | .uniforms => ⟨[.vertex, .fragment], .uniform⟩
  | .materials | .lights => ⟨[.fragment], .storage⟩
  | _ => ⟨[.vertex], .storage⟩

/-- The buffers that the programs see. -/
def frameLayout : BindingLayout :=
  ⟨"Batch Bind Group Layout", BufferRole.bindings.map frameBinding⟩

/-- The texture array that the programs see. -/
def textureLayout : BindingLayout :=
  ⟨"Base Color Bind Group Layout", [⟨[.fragment], .layers⟩, ⟨[.fragment], .sampler⟩]⟩

/-- The format of an attribute. -/
def vertexFormat : BufferRole → String
  | .texcoords => "Float32x2"
  | .joints => "Uint32x4"
  | .weights => "Float32x4"
  | _ => "Float32x3"

/-- The vertex attributes, one for each slot. -/
def slots : List VertexSlot := BufferRole.vertexSlots.map fun role => ⟨role, vertexFormat role⟩

/-- The format of depths. -/
def depthFormat : String := "Depth32Float"

/-- Which of two depths is kept. -/
def depthCompare : String := "Less"

/-- What vertices make, and which side of it is the front. -/
def topology : String × String := ("TriangleList", "Ccw")

/-- How the inside of a triangle is drawn. -/
def polygonMode : String := "Fill"

end Pipeline

/-! ### Bind groups and the texture array -/

namespace BindGroups

/-- The name of the group of buffers. -/
def frameLabel : String := "Batch Bind Group"

/-- The name of the group with the texture array. -/
def textureLabel : String := "Base Color Bind Group"

/-- The name of the texture array. -/
def arrayLabel : String := "Base Color Array"

/-- The name of the view of the texture array. -/
def viewLabel : String := "Base Color Array View"

/-- The dimension of that view. -/
def viewDimension : String := "D2Array"

/-- The name of the sampler. -/
def samplerLabel : String := "Base Color Sampler"

/-- How the sampler goes on past the edges, across, along and deep. -/
def addressModes : List String := ["Repeat", "Repeat", "ClampToEdge"]

/-- How the sampler blends texels that are enlarged, made smaller, and of two sizes. -/
def filters : List String := ["Linear", "Linear", "Nearest"]

end BindGroups

end SceneBatch
