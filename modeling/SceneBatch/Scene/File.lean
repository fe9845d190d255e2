import SceneBatch.Toml.Reader
import SceneBatch.World.Component

/-!
# Scene files

A scene names the models it needs, a camera, and its entities with their components, in TOML.
Fields that are left out have defaults; only the scene's name must be there.
-/

namespace SceneBatch

/-- A model that a scene needs. -/
structure ModelRef where
  path : String
  animated : Bool

/-- Where a scene is seen from. -/
structure Camera where
  position : Vec3 Float32 := ⟨0, 2, 6⟩
  target : Vec3 Float32 := .zero
  fovDegrees : Float32 := 60
  near : Float32 := 0.1
  far : Float32 := 500

/-- An entity as a scene defines it. A pinned entity has its identifier from the file. -/
structure EntityDef where
  pinned : Option Nat := none
  components : Components := {}

/-- A scene file. Entities are sorted by name. -/
structure SceneFile where
  name : String
  description : Option String
  models : List ModelRef
  camera : Camera
  entities : List (String × EntityDef)

namespace SceneFile

/-! ### Readers of the parts -/

/-- Read a vector. -/
def readVec3 (v : TomlValue) : Option (Vec3 Float32) := do Vec3.ofList? (← v.toSingles? 3)

/-- Read a transform. -/
def readTransform (v : TomlValue) : Option Transform := do
  let d := Transform.identity
  let r ← v.toRecord? ["position", "rotation", "scale"]
  return {
    position := ← TomlRecord.field r "position" readVec3 d.position
    rotation := ← TomlRecord.field r "rotation" readVec3 d.rotation
    scale := ← TomlRecord.field r "scale" readVec3 d.scale }

/-- Read a reference to a model. -/
def readMesh (v : TomlValue) : Option MeshRef := do
  let r ← v.toRecord? ["model"]
  return { model := ← TomlRecord.requiredField r "model" TomlValue.toText? }

/-- Read a playback clock. -/
def readPlayback (v : TomlValue) : Option Playback := do
  let d : Playback := {}
  let r ← v.toRecord? ["enabled", "speed", "time"]
  return {
    enabled := ← TomlRecord.field r "enabled" TomlValue.toBool? d.enabled
    speed := ← TomlRecord.field r "speed" TomlValue.toSingle? d.speed
    time := ← TomlRecord.field r "time" TomlValue.toSingle? d.time }

/-- Read a kind of light: its name, or an empty table or array under its name. -/
def readLightKind : TomlValue → Option LightKind
  | .string s | .table [(s, .table [])] | .table [(s, .array [])] =>
    if s = LightKind.directional.name then some .directional else none
  | _ => none

/-- Read a light. -/
def readLight (v : TomlValue) : Option Light := do
  let d : Light := {}
  let r ← v.toRecord?
    ["kind", "color", "ambient_strength", "diffuse_strength", "specular_strength"]
  return {
    kind := ← TomlRecord.field r "kind" readLightKind d.kind
    color := ← TomlRecord.field r "color" readVec3 d.color
    ambient := ← TomlRecord.field r "ambient_strength" TomlValue.toSingle? d.ambient
    diffuse := ← TomlRecord.field r "diffuse_strength" TomlValue.toSingle? d.diffuse
    specular := ← TomlRecord.field r "specular_strength" TomlValue.toSingle? d.specular }

/-- The largest pinned identifier that a field can hold. -/
def largestPinned : Nat := 18446744073709551615

/-- Read an entity. -/
def readEntity (v : TomlValue) : Option EntityDef := do
  let r ← v.toRecord? ["id", "transform", "mesh", "animation", "light"]
  return {
    pinned := ← TomlRecord.optionalField r "id" (·.toNat? largestPinned)
    components := {
      transform := ← TomlRecord.optionalField r "transform" readTransform
      mesh := ← TomlRecord.optionalField r "mesh" readMesh
      playback := ← TomlRecord.optionalField r "animation" readPlayback
      light := ← TomlRecord.optionalField r "light" readLight } }

/-- Read a reference to a model file. -/
def readModel (v : TomlValue) : Option ModelRef := do
  let r ← v.toRecord? ["path", "animated"]
  return {
    path := ← TomlRecord.requiredField r "path" TomlValue.toText?
    animated := ← TomlRecord.field r "animated" TomlValue.toBool? false }

/-- Read a camera. -/
def readCamera (v : TomlValue) : Option Camera := do
  let d : Camera := {}
  let r ← v.toRecord? ["position", "target", "fov_degrees", "near", "far"]
  return {
    position := ← TomlRecord.field r "position" readVec3 d.position
    target := ← TomlRecord.field r "target" readVec3 d.target
    fovDegrees := ← TomlRecord.field r "fov_degrees" TomlValue.toSingle? d.fovDegrees
    near := ← TomlRecord.field r "near" TomlValue.toSingle? d.near
    far := ← TomlRecord.field r "far" TomlValue.toSingle? d.far }

/-! ### The file -/

/-- Put an entry into a list sorted by name. -/
def insertByName (entry : String × α) : List (String × α) → List (String × α)
  | [] => [entry]
  | e :: rest => if entry.1 < e.1 then entry :: e :: rest else e :: insertByName entry rest

/-- Sort entries by name. -/
def sortByName (entries : List (String × α)) : List (String × α) :=
  entries.foldl (fun sorted e => insertByName e sorted) []

/-- Read the fields of a scene. -/
def read (v : TomlValue) : Option SceneFile := do
  let r ← v.toRecord? []
  let scene ← TomlRecord.requiredField r "scene" (·.toRecord? ["name", "description"])
  return {
    name := ← TomlRecord.requiredField scene "name" TomlValue.toText?
    description := ← TomlRecord.optionalField scene "description" TomlValue.toText?
    models := ← TomlRecord.field r "models" (·.toList? readModel) []
    camera := ← TomlRecord.field r "camera" readCamera {}
    entities := sortByName (← TomlRecord.field r "entities" (·.toEntries? readEntity) []) }

/-- Read a scene from its text. -/
def ofText? (text : String) : Option SceneFile := Toml.ofText? text >>= read

end SceneFile

end SceneBatch
