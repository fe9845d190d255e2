import SceneBatch.Geometry.Rotation

/-!
# Transforms

Where an entity stands: a position, Euler angles in degrees and a scale. Transforms are flat,
there is no parent. An instance of a model node combines the entity's transform with the node's
own by adding positions and angles and multiplying scales.
-/

namespace SceneBatch

/-- A position, a rotation in degrees and a scale. -/
structure Transform where
  position : Vec3 Float32
  rotation : Vec3 Float32
  scale : Vec3 Float32
  deriving DecidableEq

namespace Transform

/-- At the origin, unturned, at natural size. -/
def identity : Transform := ⟨.zero, .zero, .one⟩

/-- At a position, unturned, at natural size. -/
def ofPosition (position : Vec3 Float32) : Transform := { identity with position }

/-- The rotation as a quaternion. -/
def rotationQuat (t : Transform) : Quat Float32 := .ofEulerDegrees t.rotation

/-- The model matrix: stretch, turn, move. -/
def toMatrix (t : Transform) : Mat4 Float32 :=
  .ofScaleRotationPosition t.scale t.rotationQuat t.position

/-- Combine with a node's position, rotation and scale: positions and angles add, scales
multiply. -/
def combine (t : Transform) (position : Vec3 Float32) (rotation : Quat Float32)
    (scale : Vec3 Float32) : Transform where
  position := t.position + position
  rotation := t.rotation + rotation.toEulerDegrees
  scale := t.scale * scale

/-- The direction a light placed by the transform shines in: its local negative Z. -/
def lightDirection (t : Transform) : Vec3 Float32 :=
  (t.rotationQuat.rotate ⟨0, 0, -1⟩).normalizeOrZero

/-- Equality of numbers, component by component: zeros of both signs are equal and a
not-a-number equals nothing. -/
def sameNumbers (a b : Transform) : Bool :=
  let all (t : Transform) := t.position.toList ++ t.rotation.toList ++ t.scale.toList
  (all a).zip (all b) |>.all fun (x, y) => x == y

end Transform

end SceneBatch
