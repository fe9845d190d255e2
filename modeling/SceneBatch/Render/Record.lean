import SceneBatch.Files.Bytes
import SceneBatch.Geometry.Transform
import SceneBatch.World.Component

/-!
# Device records

What buffers on a device hold: one record for each instance, texture binding, draw command and
light, and one for the camera. `DeviceRecord` gives the bytes of each, and reads them back.
-/

namespace SceneBatch

/-- Values with a fixed layout in device memory. -/
class DeviceRecord (ρ : Type) where
  /-- How many bytes a record takes. -/
  size : Nat
  encode : ρ → Bytes
  decode : Bytes → ρ

namespace DeviceRecord

variable {ρ : Type} [DeviceRecord ρ]

/-- The bytes of records that stand one behind the other. -/
def encodeAll (rs : List ρ) : Bytes := rs.flatMap encode

/-- The records in a string of bytes. -/
def decodeAll (b : Bytes) : List ρ := (Bytes.pieces (size ρ) b).map decode

end DeviceRecord

/-! ### Numbers and vectors -/

/-- The `i`-th group of four bytes. -/
def word (b : Bytes) (i : Nat) : Bytes := (b.drop (4 * i)).take 4

/-- The `i`-th single-precision number. -/
def singleAt (b : Bytes) (i : Nat) : Float32 := Bytes.toSingle (word b i)

/-- The four numbers from the `i`-th on. -/
def vec4At (b : Bytes) (i : Nat) : Vec4 Float32 :=
  ⟨singleAt b i, singleAt b (i + 1), singleAt b (i + 2), singleAt b (i + 3)⟩

/-- The bytes of numbers that stand one behind the other. -/
def singlesBytes (xs : List Float32) : Bytes := xs.flatMap Bytes.ofSingle

instance : DeviceRecord Nat where
  size := 4
  encode := Bytes.ofNat 4
  decode b := Bytes.toNat b

instance : DeviceRecord (Vec2 Float32) where
  size := 8
  encode v := singlesBytes v.toList
  decode b := ⟨singleAt b 0, singleAt b 1⟩

instance : DeviceRecord (Vec3 Float32) where
  size := 12
  encode v := singlesBytes v.toList
  decode b := ⟨singleAt b 0, singleAt b 1, singleAt b 2⟩

instance : DeviceRecord (Vec4 Float32) where
  size := 16
  encode v := singlesBytes v.toList
  decode b := vec4At b 0

instance : DeviceRecord (Vec4 Nat) where
  size := 16
  encode v := v.toList.flatMap (Bytes.ofNat 4)
  decode b := ⟨Bytes.toNat (word b 0), Bytes.toNat (word b 1), Bytes.toNat (word b 2),
    Bytes.toNat (word b 3)⟩

instance : DeviceRecord (Mat4 Float32) where
  size := 64
  encode m := singlesBytes m.toList
  decode b := ⟨vec4At b 0, vec4At b 4, vec4At b 8, vec4At b 12⟩

/-! ### Instances and materials -/

/-- Where one instance stands, which texture binding it uses and which slot of the joint palette;
-1 for neither. -/
structure InstanceRecord where
  position : Vec4 Float32
  /-- Euler angles in degrees. -/
  rotation : Vec4 Float32
  scale : Vec3 Float32
  material : Int32
  animation : Int32
  deriving DecidableEq

namespace InstanceRecord

/-- The record of an instance that stands at `t`. -/
def ofTransform (t : Transform) (material animation : Int32) : InstanceRecord where
  position := t.position.extend 1
  rotation := t.rotation.extend 0
  scale := t.scale
  material := material
  animation := animation

/-- At the origin, untextured and static. -/
def identity : InstanceRecord := ofTransform .identity (-1) (-1)

/-- Where an instance stands. -/
def transform (r : InstanceRecord) : Transform :=
  ⟨r.position.truncate, r.rotation.truncate, r.scale⟩

theorem transform_ofTransform (t : Transform) (m a : Int32) : (ofTransform t m a).transform = t :=
  rfl

end InstanceRecord

instance : DeviceRecord InstanceRecord where
  size := 64
  encode r :=
    singlesBytes (r.position.toList ++ r.rotation.toList ++ r.scale.toList) ++
      Bytes.ofInt32 r.material ++ Bytes.ofInt32 r.animation ++ List.replicate 12 0
  decode b :=
    ⟨vec4At b 0, vec4At b 4, ⟨singleAt b 8, singleAt b 9, singleAt b 10⟩,
      Bytes.toInt32 (word b 11), Bytes.toInt32 (word b 12)⟩

/-- The texture unit that the base color of a mesh comes from. -/
structure MaterialBinding where
  textureUnit : Int32
  deriving DecidableEq

instance : DeviceRecord MaterialBinding where
  size := 16
  encode m := Bytes.ofInt32 m.textureUnit ++ List.replicate 12 0
  decode b := ⟨Bytes.toInt32 (word b 0)⟩

/-! ### Draw commands -/

/-- The arguments of one indexed indirect draw. -/
structure DrawCommand where
  indexCount : Nat
  instanceCount : Nat
  firstIndex : Nat
  baseVertex : Int
  firstInstance : Nat
  deriving DecidableEq

instance : DeviceRecord DrawCommand where
  size := 20
  encode c :=
    Bytes.ofNat 4 c.indexCount ++ Bytes.ofNat 4 c.instanceCount ++ Bytes.ofNat 4 c.firstIndex ++
      Bytes.ofInt c.baseVertex ++ Bytes.ofNat 4 c.firstInstance
  decode b :=
    ⟨Bytes.toNat (word b 0), Bytes.toNat (word b 1), Bytes.toNat (word b 2),
      Bytes.toInt (word b 3), Bytes.toNat (word b 4)⟩

/-! ### Lights -/

/-- One light as the shader sees it. A list of lights ends with a record of the kind
`endingKind`. -/
structure LightRecord where
  kind : Nat
  ambient : Float32
  diffuse : Float32
  specular : Float32
  position : Vec4 Float32
  /-- The direction the light shines in. -/
  direction : Vec4 Float32
  color : Vec4 Float32
  deriving DecidableEq

namespace LightRecord

/-- The number of a kind of light. -/
def kindNumber : LightKind → Nat
  | .directional => 0

/-- The number that ends a list of lights. -/
def endingKind : Nat := 1

/-- The record that ends a list of lights. -/
def ending : LightRecord := ⟨endingKind, 0, 0, 0, .zero, .zero, .zero⟩

/-- Whether a record ends a list of lights. -/
def isEnding (r : LightRecord) : Bool := r.kind == endingKind

/-- The record of a light that stands at `t`. -/
def ofLight (t : Transform) (l : Light) : LightRecord where
  kind := kindNumber l.kind
  ambient := l.ambient
  diffuse := l.diffuse
  specular := l.specular
  position := t.position.extend 1
  direction := t.lightDirection.extend 0
  color := l.color.extend 1

end LightRecord

instance : DeviceRecord LightRecord where
  size := 64
  encode r :=
    Bytes.ofNat 4 r.kind ++ singlesBytes [r.ambient, r.diffuse, r.specular] ++
      singlesBytes (r.position.toList ++ r.direction.toList ++ r.color.toList)
  decode b :=
    ⟨Bytes.toNat (word b 0), singleAt b 1, singleAt b 2, singleAt b 3, vec4At b 4, vec4At b 8,
      vec4At b 12⟩

/-! ### Frame uniforms -/

/-- What every vertex of a frame shares: the camera, and how many joint matrices one slot of the
palette has. -/
structure FrameUniforms where
  view : Mat4 Float32
  projection : Mat4 Float32
  viewPosition : Vec4 Float32
  params : Vec4 Nat

namespace FrameUniforms

/-- Uniforms of a camera at `position`. -/
def new (view projection : Mat4 Float32) (position : Vec3 Float32) (maxJoints : Nat) :
    FrameUniforms :=
  ⟨view, projection, position.extend 1, ⟨maxJoints, 0, 0, 0⟩⟩

/-- The matrix of a camera at `eye` that looks at `target` with Y upward: right-handed, looking
along its negative Z. -/
def viewMatrix (eye target : Vec3 Float32) : Mat4 Float32 :=
  let f := (target - eye).normalize
  let s := (f.cross ⟨0, 1, 0⟩).normalize
  let u := s.cross f
  ⟨⟨s.x, u.x, -f.x, 0⟩, ⟨s.y, u.y, -f.y, 0⟩, ⟨s.z, u.z, -f.z, 0⟩,
   ⟨-(eye.dot s), -(eye.dot u), eye.dot f, 1⟩⟩

/-- A perspective projection onto depths from zero to one. -/
def projectionMatrix (fovDegrees aspect near far : Float32) : Mat4 Float32 :=
  let half := 0.5 * Angle.radians fovDegrees
  let h := half.cos / half.sin
  let r := far / (near - far)
  ⟨⟨h / aspect, 0, 0, 0⟩, ⟨0, h, 0, 0⟩, ⟨0, 0, r, -1⟩, ⟨0, 0, r * near, 0⟩⟩

/-- Uniforms of a camera that looks from one point at another. -/
def lookAt (eye target : Vec3 Float32) (fovDegrees aspect near far : Float32) (maxJoints : Nat) :
    FrameUniforms :=
  new (viewMatrix eye target) (projectionMatrix fovDegrees aspect near far) eye maxJoints

end FrameUniforms

instance : DeviceRecord FrameUniforms where
  size := 160
  encode u :=
    singlesBytes (u.view.toList ++ u.projection.toList ++ u.viewPosition.toList) ++
      u.params.toList.flatMap (Bytes.ofNat 4)
  decode b :=
    ⟨⟨vec4At b 0, vec4At b 4, vec4At b 8, vec4At b 12⟩,
     ⟨vec4At b 16, vec4At b 20, vec4At b 24, vec4At b 28⟩, vec4At b 32,
     ⟨Bytes.toNat (word b 36), Bytes.toNat (word b 37), Bytes.toNat (word b 38),
      Bytes.toNat (word b 39)⟩⟩

end SceneBatch
