import SceneBatch.Geometry.Matrix

/-!
# Euler angles

A rotation is stored as three angles in degrees about X, Y and Z, applied in the order X, Y, Z:
its matrix is `Rz · Ry · Rx`. `Quat.ofEulerDegrees` and `Quat.toEulerDegrees` convert to and from
quaternions in that convention.
-/

namespace SceneBatch

namespace Angle

/-- The ratio of a circle's circumference to its diameter. -/
def pi : Float32 := 3.14159265358979323846

/-- Degrees to radians. -/
def radians (degrees : Float32) : Float32 := degrees * (pi / 180)

/-- Radians to degrees. -/
def degrees (radians : Float32) : Float32 := radians * 57.2957795130823208767981548141051703

end Angle

namespace Quat

/-- The rotation about X, then Y, then Z by the given angles in radians. -/
def ofEuler (x y z : Float32) : Quat Float32 :=
  let (sx, cx) := ((x * 0.5).sin, (x * 0.5).cos)
  let (sy, cy) := ((y * 0.5).sin, (y * 0.5).cos)
  let (sz, cz) := ((z * 0.5).sin, (z * 0.5).cos)
  ⟨cz * cy * sx - sz * sy * cx,
   cz * sy * cx + sz * cy * sx,
   sz * cy * cx - cz * sy * sx,
   cz * cy * cx + sz * sy * sx⟩

/-- The rotation by Euler angles in degrees. -/
def ofEulerDegrees (r : Vec3 Float32) : Quat Float32 :=
  ofEuler (Angle.radians r.x) (Angle.radians r.y) (Angle.radians r.z)

/-- The largest distance between one and the next single-precision number. -/
private def unitSpacing : Float32 := 1.1920929e-7

/-- The Euler angles of a rotation, in degrees. They are read off the matrix `R` of the normal
quaternion; where the Y angle is a right angle, or the quaternion has no direction, the X angle
is zero and the Z angle takes the whole turn. -/
def toEulerDegrees (q : Quat Float32) : Vec3 Float32 :=
  let m := Mat4.ofQuat q.normalize
  let cy := (m.xAxis.x * m.xAxis.x + m.xAxis.y * m.xAxis.y).sqrt
  let y := Float32.atan2 (-m.xAxis.z) cy
  let (x, z) :=
    if 16 * unitSpacing < cy then
      (Float32.atan2 m.yAxis.z m.zAxis.z, Float32.atan2 m.xAxis.y m.xAxis.x)
    else (0, Float32.atan2 (-m.yAxis.x) m.yAxis.y)
  ⟨Angle.degrees x, Angle.degrees y, Angle.degrees z⟩

/-- The image of a vector under a unit quaternion. -/
def rotate (q : Quat Float32) (v : Vec3 Float32) : Vec3 Float32 :=
  let b : Vec3 Float32 := ⟨q.x, q.y, q.z⟩
  v * (q.w * q.w - b.dot b) + b * (v.dot b * 2) + b.cross v * (q.w * 2)

end Quat

end SceneBatch
