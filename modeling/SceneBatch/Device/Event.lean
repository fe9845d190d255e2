import SceneBatch.Device.Renderer

/-!
# Device events

What a device is asked for, in order: the things it makes for a renderer, and the writes of an
upload. White texels of a new texture array are written after everything is made.
-/

namespace SceneBatch

/-- One thing that a device is asked to make or to write. -/
inductive DeviceEvent where
  | bindingLayout (layout : BindingLayout)
  | pipelineLayout (label : String) (groups : List String)
  | pipeline (target : ColorFormat)
  | buffer (label : String) (size : Nat)
  | texture (size layerCount : Nat)
  | view
  | sampler
  | bindGroup (label layout : String) (members : List String)
  | write (w : BufferWrite)
  | writeLayer (size layer : Nat)

namespace Pipeline

/-- The layouts and the pipeline that draws into a target. -/
def creation (target : ColorFormat) : List DeviceEvent :=
  [.bindingLayout frameLayout, .bindingLayout textureLayout,
   .pipelineLayout layoutLabel [frameLayout.label, textureLayout.label], .pipeline target]

end Pipeline

namespace BatchBuffers

/-- The buffers and the group that binds them. -/
def creation (b : BatchBuffers) : List DeviceEvent :=
  (BufferRole.all.map fun role => .buffer role.label (b.capacity.byteSize role)) ++
    [.bindGroup BindGroups.frameLabel Pipeline.frameLayout.label
      (BufferRole.bindings.map BufferRole.label)]

end BatchBuffers

namespace TextureArray

/-- The texture array with its view and sampler. -/
def creation (a : TextureArray) : List DeviceEvent :=
  [.texture a.size a.layers.length, .view, .sampler]

/-- The writes of white texels to a new texture array. -/
def whitening (a : TextureArray) : List DeviceEvent :=
  (List.range a.layers.length).map (.writeLayer a.size)

end TextureArray

namespace Renderer

/-- What a renderer is made of, behind its pipeline. -/
def creation (r : Renderer) : List DeviceEvent :=
  r.buffers.creation ++ r.textures.creation ++
    [.bindGroup BindGroups.textureLabel Pipeline.textureLayout.label
      [BindGroups.viewLabel, BindGroups.samplerLabel]] ++
    r.textures.whitening

end Renderer

namespace UploadReport

/-- The writes of an upload: layers before buffers. -/
def events (report : UploadReport) (layerSize : Nat) : List DeviceEvent :=
  (report.layers.map fun l => .writeLayer layerSize l.1) ++ report.writes.map .write

end UploadReport

end SceneBatch
