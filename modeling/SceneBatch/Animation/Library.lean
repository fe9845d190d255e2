import SceneBatch.Animation.Import

/-!
# Skeleton libraries

The skeletons of loaded models, by the models' names. A skeleton is made once; a model of the same
name does not replace it.
-/

namespace SceneBatch

/-- Skeletons by name. Each poses `maxJoints` joints, at least one. -/
structure SkeletonLibrary where
  skeletons : List (String × Skeleton Float32) := []
  maxJoints : Nat

namespace SkeletonLibrary

/-- The number of joints where none is configured. -/
def defaultMaxJoints : Nat := 20

/-- A library without skeletons. -/
def empty (maxJoints : Nat) : SkeletonLibrary := { maxJoints := max maxJoints 1 }

variable (l : SkeletonLibrary)

/-- The skeleton of a name. -/
def find? (name : String) : Option (Skeleton Float32) := l.skeletons.lookup name

/-- The skeleton of a name, which must be there. -/
def get (name : String) : Except Fault (Skeleton Float32) :=
  match l.find? name with
  | some s => .ok s
  | none => .error (.animationNotFound name)

/-- Whether there is a skeleton of a name. -/
def contains (name : String) : Bool := (l.find? name).isSome

/-- The number of skeletons. -/
def size : Nat := l.skeletons.length

/-- Take all skeletons away. -/
def clear : SkeletonLibrary := { l with skeletons := [] }

/-- A clip's name in a log line. -/
def clipText : Option String → String
  | some clip => "Some(" ++ Quoted.quote clip ++ ")"
  | none => "None"

/-- Make the skeleton of a model, unless there is one of that name. The answer says whether it was
made. -/
def add (name : String) (m : Model) : Logged (Bool × SkeletonLibrary) := do
  if l.contains name then return (false, l)
  else
    let s ← Skeleton.ofModel name m l.maxJoints
    Logged.debug (s!"'{name}': {s.bones.length} bones, clip {clipText s.clip} " ++
      s!"({Single.fixedText 2 s.duration}s)")
    return (true, { l with skeletons := (name, s) :: l.skeletons })

end SkeletonLibrary

end SceneBatch
