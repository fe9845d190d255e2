import SceneBatch.Gltf.Document
import SceneBatch.Gltf.Reader.Basic

/-!
# Reading nodes, scenes and cameras
-/

namespace SceneBatch

namespace Gltf

/-- Three numbers. -/
def readVec3 (v : RawJson) : Option (Vec3 Float32) := do Vec3.ofList? (← v.toSingles? 3)

/-- Four numbers as a rotation. -/
def readQuat (v : RawJson) : Option (Quat Float32) := do Quat.ofList? (← v.toSingles? 4)

/-- Sixteen numbers as a matrix. -/
def readMatrix (v : RawJson) : Option (Mat4 Float32) := do Mat4.ofList? (← v.toSingles? 16)

/-- A node. Its matrix, if it has one, counts instead of its other placing members. -/
def readNode (v : RawJson) : Option Node := do
  let r ← readRecord ["camera", "children", "extensions", "extras", "matrix", "mesh", "name",
    "rotation", "scale", "translation", "skin", "weights"] 12 v
  let matrix ← r.optionalField "matrix" readMatrix
  let position ← r.optionalField "translation" readVec3
  let rotation ← r.optionalField "rotation" readQuat
  let scale ← r.optionalField "scale" readVec3
  let _ ← r.optionalField "weights" (·.toList? RawJson.toSingle?)
  return { name := ← r.optionalField "name" RawJson.toText?
           mesh := ← r.optionalField "mesh" readIndex
           skin := ← r.optionalField "skin" readIndex
           camera := ← r.optionalField "camera" readIndex
           children := (← r.optionalField "children" (·.toList? readIndex)).getD []
           pose := match matrix with
             | some m => .ofMatrix m
             | none => ⟨position.getD .zero, rotation.getD .identity, scale.getD .one⟩ }

/-- The roots of a scene. -/
def readScene (v : RawJson) : Option (List Nat) := do
  let r ← readRecord ["extensions", "extras", "name", "nodes"] 4 v
  let _ ← r.optionalField "name" RawJson.toText?
  r.requiredField "nodes" (·.toList? readIndex)

/-- The view of a camera without perspective. -/
def readFlatView (v : RawJson) : Option Unit := do
  let r ← readRecord ["xmag", "ymag", "zfar", "znear", "extensions", "extras"] 4 v
  ["xmag", "ymag", "zfar", "znear"].forM fun name => do
    let _ ← r.requiredField name RawJson.toSingle?

/-- The view of a camera with perspective. -/
def readDeepView (v : RawJson) : Option Unit := do
  let r ← readRecord ["aspectRatio", "yfov", "zfar", "znear", "extensions", "extras"] 4 v
  let _ ← r.optionalField "aspectRatio" RawJson.toSingle?
  let _ ← r.requiredField "yfov" RawJson.toSingle?
  let _ ← r.optionalField "zfar" RawJson.toSingle?
  let _ ← r.requiredField "znear" RawJson.toSingle?

/-- A camera, of which nothing is kept. It has at least one view. -/
def readCamera (v : RawJson) : Option Unit := do
  let r ← readRecord ["name", "orthographic", "perspective", "type", "extensions", "extras"] 4 v
  let _ ← r.optionalField "name" RawJson.toText?
  let _ ← r.requiredField "type" (readWord [("perspective", ()), ("orthographic", ())])
  let flat ← r.optionalField "orthographic" readFlatView
  let deep ← r.optionalField "perspective" readDeepView
  flat.or deep

end Gltf

end SceneBatch
