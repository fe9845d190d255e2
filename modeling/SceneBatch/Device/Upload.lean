import SceneBatch.Device.Buffer

/-!
# Uploads

What is written to the buffers for a frame. Each upload checks the capacity first and writes
nothing if it does not suffice; what was written before it stays written. Geometry is written only
if the batch changed since it was last written.
-/

namespace SceneBatch

/-- Write records to the start of a buffer; nothing is written for none. -/
def writeRecords {ρ : Type} [DeviceRecord ρ] (role : BufferRole) (rs : List ρ) :
    List BufferWrite :=
  if rs.isEmpty then [] else [⟨role, DeviceRecord.encodeAll rs⟩]

namespace Capacity

variable (c : Capacity)

/-- The writes for staging arrays. -/
def uploadGeometry (s : Staging) : Except Fault (List BufferWrite) := do
  c.checkGeometry s
  if s.vertexCount = 0 then return []
  else
    return [⟨.positions, DeviceRecord.encodeAll s.positions⟩,
      ⟨.normals, DeviceRecord.encodeAll s.normals⟩,
      ⟨.texcoords, DeviceRecord.encodeAll s.texcoords⟩,
      ⟨.joints, DeviceRecord.encodeAll s.joints⟩,
      ⟨.weights, DeviceRecord.encodeAll s.weights⟩] ++ writeRecords .indices s.indices

/-- The writes for draws. Their commands are the ones that are executed from then on. -/
def uploadDraws (d : Draws) : Except Fault (List BufferWrite × Capacity) := do
  c.checkDraws d
  return (writeRecords .instances d.instances ++ writeRecords .materials d.materials ++
    writeRecords .commands d.commands, { c with drawCount := d.commands.length })

/-- The writes for joint matrices. -/
def uploadPalette (palette : List (Mat4 Float32)) : Except Fault (List BufferWrite) := do
  c.checkPalette palette
  return writeRecords .palette palette

/-- The writes for lights, which end with the ending record. -/
def uploadLights (lights : List LightRecord) : Except Fault (List BufferWrite) := do
  c.checkLights lights
  return writeRecords .lights lights

/-- The write for the uniforms. -/
def uploadUniforms (u : FrameUniforms) : List BufferWrite := [⟨.uniforms, DeviceRecord.encode u⟩]

/-- Check a batch and its draws before an upload. The answer says whether the geometry has to be
written; its arrays are padded then. What does not fit disables drawing. -/
def prepare (b : Batch) (d : Draws) : Except Fault Bool × Batch × Capacity :=
  let b := if b.isDirty then { b with staging := b.staging.pad } else b
  let checked := do
    if b.isDirty then c.checkGeometry b.staging
    c.checkDraws d
  match checked with
  | .error fault => (.error fault, b, c.disableDraws)
  | .ok () => (.ok b.isDirty, b, c)

end Capacity

/-- What an upload came to: its result, the writes that were made, and the buffers after them. -/
structure Uploaded where
  result : Except Fault Unit
  writes : List BufferWrite
  buffers : BatchBuffers

namespace Uploaded

/-- Go on with another upload, unless this one was refused. -/
def andThen (u : Uploaded) (next : BatchBuffers → Uploaded) : Uploaded :=
  match u.result with
  | .error _ => u
  | .ok () =>
    let after := next u.buffers
    { after with writes := u.writes ++ after.writes }

end Uploaded

namespace BatchBuffers

variable (buffers : BatchBuffers)

/-- Carry out an upload that may be refused. -/
def perform : Except Fault (List BufferWrite) → Uploaded
  | .error fault => ⟨.error fault, [], buffers⟩
  | .ok writes => ⟨.ok (), writes, buffers.apply writes⟩

/-- Upload staging arrays. -/
def uploadGeometry (s : Staging) : Uploaded := buffers.perform (buffers.capacity.uploadGeometry s)

/-- Upload draws. -/
def uploadDraws (d : Draws) : Uploaded :=
  match buffers.capacity.uploadDraws d with
  | .error fault => ⟨.error fault, [], buffers⟩
  | .ok (writes, capacity) => ⟨.ok (), writes, { buffers with capacity }.apply writes⟩

/-- Upload joint matrices. -/
def uploadPalette (palette : List (Mat4 Float32)) : Uploaded :=
  buffers.perform (buffers.capacity.uploadPalette palette)

/-- Upload lights. -/
def uploadLights (lights : List LightRecord) : Uploaded :=
  buffers.perform (buffers.capacity.uploadLights lights)

/-- Upload a batch and its draws. The batch is clean as soon as its geometry was written. -/
def build (b : Batch) (d : Draws) : Uploaded × Batch :=
  match buffers.capacity.prepare b d with
  | (.error fault, b, capacity) => (⟨.error fault, [], { buffers with capacity }⟩, b)
  | (.ok false, b, capacity) => ({ buffers with capacity }.uploadDraws d, b)
  | (.ok true, b, capacity) =>
    let geometry := { buffers with capacity }.uploadGeometry b.staging
    match geometry.result with
    | .error _ => (geometry, b)
    | .ok () => (geometry.andThen (·.uploadDraws d), b.markClean)

end BatchBuffers

end SceneBatch
