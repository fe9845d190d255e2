import SceneBatch.Batch.Draws
import SceneBatch.Frame.Assets
import SceneBatch.Render.Lights

/-!
# Frames

A frame is built from a world in a fixed order: models that stand still, animated models, lights,
draws. Each animated model gets a slot of the joint palette. An entity that cannot be drawn is
skipped, and the others are drawn as if it were not there.
-/

namespace SceneBatch

/-- What a frame consists of, in numbers. -/
structure FrameStats where
  staticInstances : Nat := 0
  animatedInstances : Nat := 0
  skipped : Nat := 0
  lights : Nat := 0
  entries : Nat := 0
  commands : Nat := 0
  instances : Nat := 0
  triangles : Nat := 0
  deriving DecidableEq, Repr

namespace FrameStats

/-- The numbers with their names. -/
def text (s : FrameStats) : String :=
  "FrameStats \x7b " ++
    s!"static_instances: {s.staticInstances}, animated_instances: {s.animatedInstances}, " ++
    s!"skipped_entities: {s.skipped}, lights: {s.lights}, mesh_entries: {s.entries}, " ++
    s!"commands: {s.commands}, instances: {s.instances}, triangles: {s.triangles} \x7d"

end FrameStats

/-- A frame, and the limits it is built within. -/
structure Frame where
  batch : Batch
  draws : Draws := {}
  palette : List (Mat4 Float32) := []
  lights : List LightRecord := [.ending]
  maxJoints : Nat
  paletteSlots : Nat
  maxLights : Nat
  stats : FrameStats := {}

/-- What a frame under construction consists of so far. -/
structure FrameDraft where
  batch : Batch
  palette : List (Mat4 Float32) := []
  textures : TextureLibrary
  stats : FrameStats := {}

namespace FrameDraft

/-- Leave an entity out, for a reason. -/
def skip (d : FrameDraft) (reason : String) : Logged FrameDraft := do
  Logged.warn reason
  return { d with stats := { d.stats with skipped := d.stats.skipped + 1 } }

/-- The reason why an entity with a model is left out. -/
def reason (id : EntityId) (mesh : MeshRef) (fault : Fault) : String :=
  s!"entity {id.text} ({mesh.model}) skipped: {fault.message}"

/-- Add a model that stands still. -/
def addStatic (models : ModelLibrary) (d : FrameDraft) (e : StaticMesh) : Logged FrameDraft := do
  match ← d.batch.addModel models e.mesh.model e.transform (-1) d.textures with
  | (.ok (), batch, textures) =>
    let stats := { d.stats with staticInstances := d.stats.staticInstances + 1 }
    return { d with batch, textures, stats }
  | (.error fault, batch, textures) =>
    skip { d with batch, textures } (reason e.id e.mesh fault)

/-- Add an animated model, if there is a slot for its joint matrices. -/
def addAnimated (models : ModelLibrary) (skeletons : SkeletonLibrary)
    (maxJoints paletteSlots : Nat) (d : FrameDraft) (e : AnimatedMesh) : Logged FrameDraft := do
  match skeletons.get e.mesh.model with
  | .error fault => d.skip (reason e.id e.mesh fault)
  | .ok skeleton =>
    -- each skeleton so far has added as many matrices
    let slot := d.palette.length / maxJoints
    if paletteSlots ≤ slot then
      d.skip s!"entity {e.id.text} skipped: joint palette full ({paletteSlots} skeletons)"
    else
      match ← d.batch.addModel models e.mesh.model e.transform (Int32.ofNat slot)
          d.textures with
      | (.ok (), batch, textures) =>
        let matrices := skeleton.writeJointMatrices e.playback.time maxJoints
        let stats := { d.stats with animatedInstances := d.stats.animatedInstances + 1 }
        return { batch, textures, stats, palette := d.palette ++ matrices }
      | (.error fault, batch, textures) =>
        skip { d with batch, textures } (reason e.id e.mesh fault)

end FrameDraft

namespace Frame

/-- A frame of nothing. -/
def empty (c : RenderConfig) : Frame where
  batch := .empty c.maxTextureUnits.toNat c.maxJoints
  maxJoints := max c.maxJoints 1
  paletteSlots := c.paletteSlots.toNat
  maxLights := c.limits.lights.toNat

/-- Build the frame of a world. What the frame was before does not matter. -/
def build (f : Frame) (w : World) (a : Assets) : Logged (Frame × Assets) := do
  let start : FrameDraft := { batch := f.batch.cleanUp, textures := a.textures }
  let d ← w.staticMeshes.foldlM (FrameDraft.addStatic a.models) start
  -- models that stand still come first, and take no slots
  let d ← w.animatedMeshes.foldlM
    (FrameDraft.addAnimated a.models a.skeletons f.maxJoints f.paletteSlots) d
  let lights ← collectLights w f.maxLights
  let draws := Draws.ofBatch d.batch
  let stats := { d.stats with
    -- the record that ends the list is no light
    lights := lights.length - 1
    entries := d.batch.entries.length
    commands := draws.commands.length
    instances := draws.instances.length
    triangles := draws.triangleCount }
  Logged.debug ("frame built: " ++ stats.text)
  return ({ f with batch := d.batch, palette := d.palette, draws, lights, stats },
    { a with textures := d.textures })

end Frame

end SceneBatch
