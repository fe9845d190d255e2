import SceneBatch.Animation.Track
import SceneBatch.Geometry.Pose

/-!
# Skeletons

A skeleton is a list of bones, parents before children, with a clip that moves them. Posing it at
a time gives one matrix for each joint: where the bone stands then, seen from where it stood when
the mesh was bound to it.
-/

namespace SceneBatch

/-- One joint of a skin: its node, its parent among the bones, the inverse of its bind matrix, its
pose at rest, and a track for each property that is animated. -/
structure Bone (α : Type) where
  name : String
  node : Nat
  parent : Option Nat
  inverseBind : Mat4 α
  rest : LocalPose α
  position : Track α (Vec3 α) := {}
  rotation : Track α (Quat α) := {}
  scale : Track α (Vec3 α) := {}

/-- A skeleton with its clip. `duration` is the length of the clip, `maxJoints` the length of
every list of joint matrices. -/
structure Skeleton (α : Type) where
  name : String
  clip : Option String
  bones : List (Bone α)
  duration : α
  maxJoints : Nat

variable {α : Type} [Scalar α]

namespace Bone

/-- The pose at a time; a property without a track stays at rest. -/
def poseAt (b : Bone α) (time : α) : LocalPose α where
  position := (b.position.sample time).getD b.rest.position
  rotation := (b.rotation.sample time).getD b.rest.rotation
  scale := (b.scale.sample time).getD b.rest.scale

/-- The matrix of the pose at a time. -/
def localMatrix (b : Bone α) (time : α) : Mat4 α := (b.poseAt time).toMatrix

/-- Whether a bone has a track with keys. -/
def isAnimated (b : Bone α) : Bool :=
  !(b.position.isEmpty && b.rotation.isEmpty && b.scale.isEmpty)

end Bone

namespace Skeleton

/-- Wrap a time to the clip, which repeats. A clip without length stays at its start. -/
def wrapTime (s : Skeleton α) (time : α) : α :=
  if 0 < s.duration then Scalar.remainder time s.duration else 0

/-- The global matrices of bones, given those of the bones before them. A parent at or past
`count` is no parent, and one that comes later has not moved yet. -/
def globalsFrom (time : α) (count : Nat) (done : List (Mat4 α)) : List (Bone α) → List (Mat4 α)
  | [] => done
  | b :: rest =>
    let matrix := b.localMatrix time
    let global := match b.parent with
      | some p => if p < count then (done[p]?.getD .identity) * matrix else matrix
      | none => matrix
    globalsFrom time count (done ++ [global]) rest

/-- The matrices of the first `length` joints at a time; past the last bone they are the
identity. -/
def writeJointMatrices (s : Skeleton α) (time : α) (length : Nat) : List (Mat4 α) :=
  let bones := s.bones.take length
  let globals := globalsFrom (s.wrapTime time) bones.length [] bones
  List.zipWith (fun g b => g * b.inverseBind) globals bones ++
    List.replicate (length - bones.length) .identity

/-- The joint matrices at a time. -/
def jointMatrices (s : Skeleton α) (time : α) : List (Mat4 α) :=
  s.writeJointMatrices time s.maxJoints

/-- Whether some bone comes before its parent, or is its own. -/
def hasUnorderedParents (s : Skeleton α) : Bool :=
  s.bones.zipIdx.any fun (b, i) => b.parent.any fun p => i ≤ p

end Skeleton

end SceneBatch
