import SceneBatch.Device.Capacity

/-!
# Buffers

The buffers that a frame is drawn from. What a buffer holds is what was last written to its start,
with older data behind it.
-/

namespace SceneBatch

/-- What a device may use a buffer for, besides writing to it. -/
inductive BufferUsage where
  | index
  | vertex
  | uniform
  | storage
  | indirect
  deriving DecidableEq, Repr

namespace BufferUsage

/-- The name of a usage. -/
def label : BufferUsage → String
  | index => "INDEX"
  | vertex => "VERTEX"
  | uniform => "UNIFORM"
  | storage => "STORAGE"
  | indirect => "INDIRECT"

/-- The name of the usage that every buffer has: data is copied to it. -/
def copyLabel : String := "COPY_DST"

end BufferUsage

/-- The buffers of a frame. -/
inductive BufferRole where
  | positions
  | normals
  | texcoords
  | joints
  | weights
  | indices
  | instances
  | materials
  | palette
  | lights
  | commands
  | uniforms
  deriving DecidableEq, Repr

namespace BufferRole

/-- All buffers, in the order they are made. -/
def all : List BufferRole :=
  [positions, normals, texcoords, joints, weights, indices, instances, materials, palette, lights,
   commands, uniforms]

/-- The vertex buffers, in the order of their slots. -/
def vertexSlots : List BufferRole := [positions, normals, texcoords, joints, weights]

/-- The buffers that a shader sees as its first group of bindings, in order. -/
def bindings : List BufferRole := [uniforms, instances, materials, palette, lights]

/-- The name of a buffer. -/
def label : BufferRole → String
  | positions => "Batch Positions"
  | normals => "Batch Normals"
  | texcoords => "Batch Texcoords"
  | joints => "Batch Joints"
  | weights => "Batch Weights"
  | indices => "Batch Indices"
  | instances => "Batch Instances"
  | materials => "Batch Materials"
  | palette => "Joint Palette"
  | lights => "Batch Lights"
  | commands => "Batch Indirect Commands"
  | uniforms => "Frame Uniforms"

/-- The buffer of a name. -/
def ofLabel? (label : String) : Option BufferRole := all.find? fun role => role.label = label

/-- What a buffer is used for. -/
def usage : BufferRole → BufferUsage
  | positions | normals | texcoords | joints | weights => .vertex
  | indices => .index
  | instances | materials | palette | lights => .storage
  | commands => .indirect
  | uniforms => .uniform

/-- The bytes of one element. -/
def elementSize : BufferRole → Nat
  | positions | normals => DeviceRecord.size (Vec3 Float32)
  | texcoords => DeviceRecord.size (Vec2 Float32)
  | joints => DeviceRecord.size (Vec4 Nat)
  | weights => DeviceRecord.size (Vec4 Float32)
  | indices => DeviceRecord.size Nat
  | instances => DeviceRecord.size InstanceRecord
  | materials => DeviceRecord.size MaterialBinding
  | palette => DeviceRecord.size (Mat4 Float32)
  | lights => DeviceRecord.size LightRecord
  | commands => DeviceRecord.size DrawCommand
  | uniforms => DeviceRecord.size FrameUniforms

end BufferRole

namespace Capacity

/-- The number of elements that a buffer takes. -/
def elements (c : Capacity) : BufferRole → Nat
  | .positions | .normals | .texcoords | .joints | .weights => c.limits.vertices.toNat
  | .indices => c.limits.indices.toNat
  | .instances => c.limits.instances.toNat
  | .materials => c.materials.toNat
  | .palette => c.limits.paletteMatrices.toNat
  | .lights => c.lights.toNat
  | .commands => c.limits.draws.toNat
  | .uniforms => 1

/-- The size of a buffer in bytes. No buffer is empty. -/
def byteSize (c : Capacity) (role : BufferRole) : Nat :=
  max (c.elements role) 1 * role.elementSize

end Capacity

/-- A write to the start of a buffer. -/
structure BufferWrite where
  role : BufferRole
  data : Bytes

/-- What each buffer holds, up to the last byte that was ever written. -/
abbrev BufferMemory := BufferRole → Bytes

namespace BufferMemory

/-- Nothing was written yet. -/
def empty : BufferMemory := fun _ => []

/-- Write to the start of a buffer; what lies behind stays. -/
def write (memory : BufferMemory) (w : BufferWrite) : BufferMemory :=
  let contents := w.data ++ (memory w.role).drop w.data.length
  fun role => if role = w.role then contents else memory role

/-- Make several writes, one after the other. -/
def writeAll (memory : BufferMemory) (ws : List BufferWrite) : BufferMemory :=
  ws.foldl write memory

/-- The commands that a device finds from a byte on. -/
def commandsAt (memory : BufferMemory) (offset count : Nat) : List DrawCommand :=
  let size := DeviceRecord.size DrawCommand
  let b := ((memory .commands).drop offset).take (size * count)
  DeviceRecord.decodeAll (b ++ List.replicate (size * count - b.length) 0)

end BufferMemory

/-- Buffers on a device. -/
structure BatchBuffers where
  capacity : Capacity
  memory : BufferMemory := .empty

namespace BatchBuffers

/-- New buffers for a configuration. -/
def ofConfig (c : RenderConfig) : BatchBuffers := { capacity := .ofConfig c }

/-- Carry out writes. -/
def apply (b : BatchBuffers) (ws : List BufferWrite) : BatchBuffers :=
  { b with memory := b.memory.writeAll ws }

end BatchBuffers

end SceneBatch
