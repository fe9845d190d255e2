import SceneBatch.Model.Basic

/-!
# Mesh parts

A primitive of a mesh, decoded: its vertices, and the triangles they make as places among them.
Only lists of triangles are drawn. Positions are required; other attributes count where they have
one element for each vertex.
-/

namespace SceneBatch

/-- A decoded primitive. Joints and weights come together or not at all. -/
structure MeshPart where
  positions : List (Vec3 Float32)
  normals : Option (List (Vec3 Float32))
  texcoords : Option (List (Vec2 Float32))
  influences : Option (List (Vec4 Nat) × List (Vec4 Float32))
  indices : List Nat
  deriving DecidableEq

namespace Gltf

namespace PrimitiveMode

/-- The name of a mode in a fault. -/
def label : PrimitiveMode → String
  | points => "Points"
  | lines => "Lines"
  | lineLoop => "LineLoop"
  | lineStrip => "LineStrip"
  | triangles => "Triangles"
  | triangleStrip => "TriangleStrip"
  | triangleFan => "TriangleFan"

end PrimitiveMode

end Gltf

/-- How the components of an attribute may be stored. -/
inductive Encoding where
  | float
  | floatOrFraction
  | natural
  | index
  deriving DecidableEq, Repr

namespace Encoding

/-- Whether an accessor is stored in one of the ways of an encoding. -/
def allows (e : Encoding) (x : Gltf.Accessor) : Bool :=
  match e with
  | float => x.component = .float32
  | floatOrFraction =>
    x.component = .float32 ∨ (x.isNormalized ∧ (x.component = .uint8 ∨ x.component = .uint16))
  | natural => ¬x.isNormalized ∧ (x.component = .uint8 ∨ x.component = .uint16)
  | index => x.component = .uint8 ∨ x.component = .uint16 ∨ x.component = .uint32

end Encoding

/-- What is expected of one attribute of a primitive. -/
structure AttributeRule where
  label : String
  accessor : Option Gltf.Accessor
  encoding : Encoding
  shape : Gltf.ElementShape
  isRequired : Bool := false

namespace AttributeRule

/-- Check an attribute of a model's primitive. -/
def check (model : String) (r : AttributeRule) : Except Fault Unit :=
  match r.accessor with
  | none => if r.isRequired then .error (.missingAttribute model r.label) else .ok ()
  | some x =>
    if x.shape = r.shape ∧ r.encoding.allows x then .ok ()
    else .error (.unsupportedEncoding model r.label)

end AttributeRule

/-- The influences of four joints on a vertex, without those of joints at or past the cap, which
belong to another skeleton's matrices: they become the influence of no weight of joint 0. -/
def capInfluences (maxJoints : Nat) (joints : Vec4 Nat) (weights : Vec4 Float32) :
    Vec4 Nat × Vec4 Float32 :=
  let joint (j : Nat) : Nat := if maxJoints ≤ j then 0 else j
  let weight (j : Nat) (w : Float32) : Float32 := if maxJoints ≤ j then 0 else w
  (joints.map joint,
   ⟨weight joints.x weights.x, weight joints.y weights.y, weight joints.z weights.z,
    weight joints.w weights.w⟩)

namespace MeshPart

/-- The influences of a primitive, if it has joints and weights for each of `count` vertices. -/
def influencesOf (count maxJoints : Nat) (joints : Option (List (Vec4 Nat)))
    (weights : Option (List (Vec4 Float32))) : Option (List (Vec4 Nat) × List (Vec4 Float32)) := do
  let joints ← joints
  let weights ← weights
  if joints.length = count ∧ weights.length = count then
    return (joints.zip weights |>.map fun (j, w) => capInfluences maxJoints j w).unzip
  else none

variable (m : Model) (p : Gltf.Primitive)

/-- The accessor of an attribute. -/
def accessor? (semantic : Gltf.Semantic) : Option Gltf.Accessor := do
  m.document.accessors[← p.attribute? semantic]?

/-- The accessor of the indices. -/
def indexAccessor? : Option Gltf.Accessor := do m.document.accessors[← p.indices]?

/-- What is expected of the attributes of a primitive, in the order in which it is checked. -/
def rules : List AttributeRule :=
  [⟨"POSITION", accessor? m p .position, .float, .vec3, true⟩,
   ⟨"NORMAL", accessor? m p .normal, .float, .vec3, false⟩,
   ⟨"TEXCOORD_0", accessor? m p (.texcoord 0), .floatOrFraction, .vec2, false⟩,
   ⟨"JOINTS_0", accessor? m p (.joints 0), .natural, .vec4, false⟩,
   ⟨"WEIGHTS_0", accessor? m p (.weights 0), .floatOrFraction, .vec4, false⟩,
   ⟨"indices", indexAccessor? m p, .index, .scalar, false⟩]

/-- The positions of a primitive's vertices. -/
def positions? : Option (List (Vec3 Float32)) := do
  (← m.asset.singles? (← accessor? m p .position) 3).mapM Vec3.ofList?

/-- The normals of a primitive. -/
def normals? : Option (List (Vec3 Float32)) := do
  (← m.asset.singles? (← accessor? m p .normal) 3).mapM Vec3.ofList?

/-- The texture coordinates of a primitive. -/
def texcoords? : Option (List (Vec2 Float32)) := do
  (← m.asset.fractions? (← accessor? m p (.texcoord 0)) 2).mapM Vec2.ofList?

/-- The joints of a primitive's vertices. -/
def joints? : Option (List (Vec4 Nat)) := do
  (← m.asset.naturals? (← accessor? m p (.joints 0)) 4).mapM Vec4.ofList?

/-- The weights of a primitive's vertices. -/
def weights? : Option (List (Vec4 Float32)) := do
  (← m.asset.fractions? (← accessor? m p (.weights 0)) 4).mapM Vec4.ofList?

/-- The indices of a primitive; without any, its vertices in order. -/
def indicesOf (count : Nat) : List Nat :=
  let read := do m.asset.naturals? (← indexAccessor? m p) 1
  (read.map List.flatten).getD (List.range count)

/-- Decode a primitive of a model. -/
def decode (maxJoints : Nat) : Except Fault MeshPart := do
  if p.mode ≠ .triangles then throw (.unsupportedEncoding m.name ("mode " ++ p.mode.label))
  -- encodings are checked before any data is read
  (rules m p).forM (AttributeRule.check m.name)
  match positions? m p with
  | none => throw (.missingAttribute m.name "POSITION")
  | some positions =>
    let count := positions.length
    let indices := indicesOf m p count
    match indices.find? fun i => count ≤ i with
    | some bad => throw (.importing (.indexOutOfRange m.name bad count))
    | none =>
      -- attributes that are not one for each vertex are dropped
      return { positions, indices
               normals := (normals? m p).filter (·.length = count)
               texcoords := (texcoords? m p).filter (·.length = count)
               influences := influencesOf count maxJoints (joints? m p) (weights? m p) }

end MeshPart

end SceneBatch
