import SceneBatch.Geometry.Vector

/-!
# Quaternions

Rotations of nodes and joints, and spherical interpolation between two of them.
-/

namespace SceneBatch

/-- A quaternion with vector part `(x, y, z)` and scalar part `w`. -/
structure Quat (α : Type) where
  x : α
  y : α
  z : α
  w : α
  deriving DecidableEq

namespace Quat

variable {α : Type}

/-- The components in order, the scalar part last. -/
def toList (q : Quat α) : List α := [q.x, q.y, q.z, q.w]

/-- The quaternion with the given four components. -/
def ofList? : List α → Option (Quat α)
  | [x, y, z, w] => some ⟨x, y, z, w⟩
  | _ => none

variable [Scalar α]

/-- No rotation. -/
def identity : Quat α := ⟨0, 0, 0, 1⟩

instance : Add (Quat α) := ⟨fun a b => ⟨a.x + b.x, a.y + b.y, a.z + b.z, a.w + b.w⟩⟩

instance : Neg (Quat α) := ⟨fun a => ⟨-a.x, -a.y, -a.z, -a.w⟩⟩

instance : HMul (Quat α) α (Quat α) := ⟨fun a k => ⟨a.x * k, a.y * k, a.z * k, a.w * k⟩⟩

instance : HDiv (Quat α) α (Quat α) := ⟨fun a k => ⟨a.x / k, a.y / k, a.z / k, a.w / k⟩⟩

/-- The inner product. -/
def dot (a b : Quat α) : α := a.x * b.x + a.y * b.y + a.z * b.z + a.w * b.w

/-- The Euclidean length. -/
def length (a : Quat α) : α := Scalar.sqrt (a.dot a)

/-- The quaternion of length one in the same direction. -/
def normalize (a : Quat α) : Quat α := a * (1 / a.length)

/-- The weights of the two ends of a spherical interpolation, where `dot` is their inner
product. Ends that are nearly parallel are blended linearly, which avoids the quotient of two
small sines. -/
def slerpWeights (dot t : α) : α × α :=
  if 0.9995 < dot then (1 - t, t)
  else
    let theta := Scalar.acos dot
    let s := Scalar.sin theta
    (Scalar.sin ((1 - t) * theta) / s, Scalar.sin (t * theta) / s)

/-- Spherical interpolation along the shorter arc: the second end is negated when it lies on the
other half of the sphere. The result has length one; where the blend vanishes it is the
identity. -/
def slerp (a b : Quat α) (t : α) : Quat α :=
  let dot := a.dot b
  let (b, dot) := if dot < 0 then (-b, -dot) else (b, dot)
  let (s, u) := slerpWeights dot t
  let r := a * s + b * u
  if r.length < 1e-10 then identity else r / r.length

end Quat

end SceneBatch
