import SceneBatch.Device.Pipeline
import SceneBatch.Device.TextureArray
import SceneBatch.Device.Upload
import SceneBatch.Frame.Basic
import SceneBatch.Render.Dispatch

/-!
# Renderers

A renderer owns the buffers and the texture array on a device, uploads frames to them and records
passes. An upload that is refused leaves nothing to draw.
-/

namespace SceneBatch

/-- What a pass asks of the device. A draw comes with the commands that the device finds. -/
inductive PassCommand where
  | start (clear : Vec4 Float32)
  | setPipeline (label : String)
  | setBindGroup (index : Nat) (label : String)
  | setVertexBuffer (slot : Nat) (role : BufferRole)
  | setIndexBuffer (role : BufferRole)
  | draw (offset : Nat) (commands : List DrawCommand)
  | finish

namespace PassCommand

/-- The name of a pass. -/
def passLabel : String := "Batched Mesh Pass"

/-- The depth that a pass starts from. -/
def clearDepth : Float32 := 1

/-- The draw commands that are executed in a pass. -/
def executed (commands : List PassCommand) : List DrawCommand :=
  commands.flatMap fun
    | .draw _ drawn => drawn
    | _ => []

end PassCommand

/-- Buffers, texture array, and whether the device takes several draws at once. -/
structure Renderer where
  buffers : BatchBuffers
  textures : TextureArray
  multiDraw : Bool

/-- What an upload did: its result, the layers that were filled, and the writes to buffers, in
order. -/
structure UploadReport where
  result : Except Fault Unit
  layers : List (Nat × Picture)
  writes : List BufferWrite

namespace Renderer

/-- A new renderer. -/
def ofConfig (c : RenderConfig) (multiDraw : Bool) : Logged Renderer := do
  if ¬multiDraw then
    Logged.info "multi-draw indirect unavailable, issuing one indirect draw per command"
  return {
    buffers := .ofConfig c
    textures := .white c.maxTextureUnits.toNat c.textureSize.toNat
    multiDraw }

variable (r : Renderer)

/-- How the uploaded commands are submitted. -/
def plan : DispatchPlan := .ofCommands r.buffers.capacity.drawCount r.multiDraw

/-! ### Uploads -/

/-- Upload buffers. Joint matrices and lights are checked first and written last. -/
def uploadBuffers (buffers : BatchBuffers) (b : Batch) (d : Draws)
    (palette : List (Mat4 Float32)) (lights : List LightRecord) : Uploaded × Batch :=
  let checked := do
    buffers.capacity.checkPalette palette
    buffers.capacity.checkLights lights
  match checked with
  | .error fault =>
    (⟨.error fault, [], { buffers with capacity := buffers.capacity.disableDraws }⟩, b)
  | .ok () =>
    -- joint matrices and lights are not written if the batch is refused
    let (built, b) := buffers.build b d
    ((built.andThen (·.uploadPalette palette)).andThen (·.uploadLights lights), b)

/-- Upload stale textures, the uniforms, and then a batch with its draws, joint matrices and
lights. -/
def upload (reader : PictureReader) (b : Batch) (d : Draws) (library : TextureLibrary)
    (uniforms : FrameUniforms) (palette : List (Mat4 Float32)) (lights : List LightRecord) :
    Logged (UploadReport × Renderer × Batch × TextureLibrary) := do
  let (layers, textures, library) ← r.textures.flush reader library
  let first := Capacity.uploadUniforms uniforms
  let (uploaded, b) := uploadBuffers (r.buffers.apply first) b d palette lights
  return (⟨uploaded.result, layers, first ++ uploaded.writes⟩,
    { r with buffers := uploaded.buffers, textures }, b, library)

/-- Upload a frame. -/
def uploadFrame (reader : PictureReader) (f : Frame) (a : Assets) (uniforms : FrameUniforms) :
    Logged (UploadReport × Renderer × Frame × Assets) := do
  let (report, r, batch, textures) ←
    r.upload reader f.batch f.draws a.textures uniforms f.palette f.lights
  return (report, r, { f with batch }, { a with textures })

/-! ### Passes -/

/-- What binds the buffers of a pass. -/
def bindCommands : List PassCommand :=
  [.setPipeline Pipeline.label, .setBindGroup 0 BindGroups.frameLabel,
   .setBindGroup 1 BindGroups.textureLabel] ++
    (BufferRole.vertexSlots.zipIdx.map fun (role, slot) => .setVertexBuffer slot role) ++
    [.setIndexBuffer .indices]

/-- The draw of some commands from the `first` one on. -/
def drawFrom (first count : Nat) : PassCommand :=
  let offset := DeviceRecord.size DrawCommand * first
  .draw offset (r.buffers.memory.commandsAt offset count)

/-- What draws the uploaded commands, by the plan. -/
def drawCommands : List PassCommand :=
  match r.plan with
  | .nothing => []
  | .single => [r.drawFrom 0 1]
  | .multi count => [r.drawFrom 0 count]
  | .sequential count => (List.range count).map fun i => r.drawFrom i 1

/-- What a pass draws; nothing is even bound if there is nothing to draw. -/
def render : List PassCommand :=
  if r.plan = .nothing then [] else bindCommands ++ r.drawCommands

/-- A whole pass: clear, then draw. -/
def pass (clear : Vec4 Float32) : List PassCommand := .start clear :: r.render ++ [.finish]

end Renderer

end SceneBatch
