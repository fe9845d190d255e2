import SceneBatch.Number.Scalar

/-!
# Vectors

Texture coordinates are `Vec2`; points, directions, Euler angles and scales are `Vec3`; the columns
of a matrix are `Vec4`. Addition, subtraction and multiplication go component by component.
-/

namespace SceneBatch

/-- Two components. -/
structure Vec2 (α : Type) where
  x : α
  y : α
  deriving DecidableEq

/-- Three components. -/
structure Vec3 (α : Type) where
  x : α
  y : α
  z : α
  deriving DecidableEq

/-- Four components. -/
structure Vec4 (α : Type) where
  x : α
  y : α
  z : α
  w : α
  deriving DecidableEq

namespace Vec2

variable {α : Type}

/-- The components in order. -/
def toList (v : Vec2 α) : List α := [v.x, v.y]

/-- The vector with the given two components. -/
def ofList? : List α → Option (Vec2 α)
  | [x, y] => some ⟨x, y⟩
  | _ => none

end Vec2

namespace Vec3

variable {α : Type}

/-- The same number three times. -/
def splat (a : α) : Vec3 α := ⟨a, a, a⟩

/-- The components in order. -/
def toList (v : Vec3 α) : List α := [v.x, v.y, v.z]

/-- The vector with the given three components. -/
def ofList? : List α → Option (Vec3 α)
  | [x, y, z] => some ⟨x, y, z⟩
  | _ => none

/-- A fourth component at the end. -/
def extend (v : Vec3 α) (w : α) : Vec4 α := ⟨v.x, v.y, v.z, w⟩

variable [Scalar α]

instance : Add (Vec3 α) := ⟨fun a b => ⟨a.x + b.x, a.y + b.y, a.z + b.z⟩⟩

instance : Sub (Vec3 α) := ⟨fun a b => ⟨a.x - b.x, a.y - b.y, a.z - b.z⟩⟩

instance : Mul (Vec3 α) := ⟨fun a b => ⟨a.x * b.x, a.y * b.y, a.z * b.z⟩⟩

instance : HMul (Vec3 α) α (Vec3 α) := ⟨fun a k => ⟨a.x * k, a.y * k, a.z * k⟩⟩

/-- All components zero. -/
def zero : Vec3 α := splat 0

/-- All components one. -/
def one : Vec3 α := splat 1

/-- The inner product. -/
def dot (a b : Vec3 α) : α := a.x * b.x + a.y * b.y + a.z * b.z

/-- The vector product. -/
def cross (a b : Vec3 α) : Vec3 α :=
  ⟨a.y * b.z - b.y * a.z, a.z * b.x - b.z * a.x, a.x * b.y - b.x * a.y⟩

/-- The Euclidean length. -/
def length (a : Vec3 α) : α := Scalar.sqrt (a.dot a)

/-- The vector of length one in the same direction. -/
def normalize (a : Vec3 α) : Vec3 α := a * (1 / a.length)

end Vec3

namespace Vec4

variable {α : Type}

/-- The components in order. -/
def toList (v : Vec4 α) : List α := [v.x, v.y, v.z, v.w]

/-- The vector with the given four components. -/
def ofList? : List α → Option (Vec4 α)
  | [x, y, z, w] => some ⟨x, y, z, w⟩
  | _ => none

/-- The same function on every component. -/
def map {β : Type} (f : α → β) (v : Vec4 α) : Vec4 β := ⟨f v.x, f v.y, f v.z, f v.w⟩

/-- The first three components. -/
def truncate (v : Vec4 α) : Vec3 α := ⟨v.x, v.y, v.z⟩

variable [Scalar α]

instance : Add (Vec4 α) := ⟨fun a b => ⟨a.x + b.x, a.y + b.y, a.z + b.z, a.w + b.w⟩⟩

instance : HMul (Vec4 α) α (Vec4 α) := ⟨fun a k => ⟨a.x * k, a.y * k, a.z * k, a.w * k⟩⟩

/-- All components zero. -/
def zero : Vec4 α := ⟨0, 0, 0, 0⟩

end Vec4

/-- The normal vector of `v`, or zero where `v` has no direction: the reciprocal of its length
is not a positive finite number. -/
def Vec3.normalizeOrZero (v : Vec3 Float32) : Vec3 Float32 :=
  let r := 1 / v.length
  if r.isFinite ∧ 0 < r then v * r else .zero

end SceneBatch
