import SceneBatch.Geometry.Matrix

/-!
# Local poses

Where a node or a bone stands relative to its parent: a position, a rotation and a scale. A
node may give its pose as a matrix instead, which is taken apart; a matrix that shears has no
exact pose.
-/

namespace SceneBatch

/-- A position, a rotation and a scale. -/
structure LocalPose (α : Type) where
  position : Vec3 α
  rotation : Quat α
  scale : Vec3 α
  deriving DecidableEq

namespace LocalPose

variable {α : Type} [Scalar α]

/-- At the parent. -/
def identity : LocalPose α := ⟨.zero, .identity, .one⟩

/-- The matrix of a pose: stretch, turn, move. -/
def toMatrix (p : LocalPose α) : Mat4 α :=
  .ofPosition p.position * .ofQuat p.rotation * .ofScale p.scale

end LocalPose

/-- The rotation with three columns of length one. The component of the quaternion that is
divided by is one of the larger ones: the scalar part where the trace is not negative, otherwise
the part along the largest diagonal element. -/
def Quat.ofColumns (x y z : Vec3 Float32) : Quat Float32 :=
  let trace := x.x + y.y + z.z
  if 0 ≤ trace then
    let s := (1 + trace).sqrt
    let r := 0.5 / s
    ⟨(y.z - z.y) * r, (z.x - x.z) * r, (x.y - y.x) * r, 0.5 * s⟩
  else if y.y < x.x ∧ z.z < x.x then
    let s := ((x.x - y.y - z.z) + 1).sqrt
    let r := 0.5 / s
    ⟨0.5 * s, (y.x + x.y) * r, (x.z + z.x) * r, (y.z - z.y) * r⟩
  else if z.z < y.y then
    let s := ((y.y - x.x - z.z) + 1).sqrt
    let r := 0.5 / s
    ⟨(y.x + x.y) * r, 0.5 * s, (z.y + y.z) * r, (z.x - x.z) * r⟩
  else
    let s := ((z.z - x.x - y.y) + 1).sqrt
    let r := 0.5 / s
    ⟨(x.z + z.x) * r, (z.y + y.z) * r, 0.5 * s, (x.y - y.x) * r⟩

namespace LocalPose

/-- The determinant of three columns. -/
def determinant (x y z : Vec3 Float32) : Float32 :=
  x.x * (y.y * z.z - z.y * y.z) - y.x * (x.y * z.z - z.y * x.z) + z.x * (x.y * y.z - y.y * x.z)

/-- One with the sign of a number, zeros included. -/
def signOf (a : Float32) : Float32 :=
  if a.isNaN then a else if a.toBits < 0x80000000 then 1 else -1

/-- Take a matrix apart. A reflection becomes a negative scale along the third axis. -/
def ofMatrix (m : Mat4 Float32) : LocalPose Float32 :=
  let x := m.xAxis.truncate
  let y := m.yAxis.truncate
  let z := m.zAxis.truncate
  let scale : Vec3 Float32 := ⟨x.length, y.length, signOf (determinant x y z) * z.length⟩
  { position := m.wAxis.truncate
    rotation := .ofColumns (x * (1 / scale.x)) (y * (1 / scale.y)) (z * (1 / scale.z))
    scale }

end LocalPose

end SceneBatch
