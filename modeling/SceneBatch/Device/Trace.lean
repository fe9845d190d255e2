import SceneBatch.Device.Event
import SceneBatch.Json.Basic

/-!
# Device traces

What a device is asked for as JSON arrays, so that two runs can be compared: the name of a request
first, then its arguments. How numbers with a fraction are written is up to the reader of the
trace.
-/

namespace SceneBatch

namespace Trace

/-- A request and its arguments. -/
def line (name : String) (arguments : List Json) : Json := .array (.string name :: arguments)

/-- Texts in a row. -/
def labels (ls : List String) : Json := .list .string ls

/-- Things that are numbered from zero. -/
def numbered (describe : α → List Json) (xs : List α) : Json :=
  .list (fun (x, i) => .array (.nat i :: describe x)) xs.zipIdx

/-- The attribute of a vertex slot. -/
def slot (s : VertexSlot × Nat) : Json :=
  .array [.nat s.1.role.elementSize, .string "Vertex",
    .array [.array [.nat s.2, .string s.1.format, .nat 0]]]

/-- The programs, the slots and the targets of the pipeline. -/
def pipelineMembers (target : ColorFormat) : List (String × Json) :=
  let program (stage : ShaderStage) : Json :=
    labels [Pipeline.shaderLabel, Pipeline.entryPoint stage]
  [("layout", .string Pipeline.layoutLabel), ("vertex", program .vertex),
    ("fragment", program .fragment), ("slots", .list slot Pipeline.slots.zipIdx),
    ("targets", .array [.array [.string target.label, .bool true, .bool true]]),
    ("depth", .array [.string Pipeline.depthFormat, .bool true, .string Pipeline.depthCompare]),
    ("samples", .nat 1),
    ("primitive", .array [.string Pipeline.topology.1, .string Pipeline.topology.2, .null,
      .string Pipeline.polygonMode])]

/-- The arguments of a draw command. -/
def command (c : DrawCommand) : Json :=
  .array [.nat c.indexCount, .nat c.instanceCount, .nat c.firstIndex, .int c.baseVertex,
    .nat c.firstInstance]

end Trace

namespace DeviceEvent

open Trace

/-- An event as a line of a trace. -/
def toJson : DeviceEvent → Json
  | bindingLayout l =>
    line "bind_group_layout" [.string l.label,
      numbered (fun b => [labels (b.stages.map ShaderStage.label), .string b.kind.text])
        l.bindings]
  | pipelineLayout label groups => line "pipeline_layout" [.string label, labels groups]
  | pipeline target =>
    line "render_pipeline" [.string Pipeline.label, .object (pipelineMembers target)]
  | buffer label size => line "buffer" [.string label, .nat size]
  | texture size layerCount =>
    line "texture" [.string BindGroups.arrayLabel, .list .nat [size, size, layerCount], .nat 1,
      .nat 1, .string "D2", .string ColorFormat.rgbaSrgb.label]
  | view =>
    line "view" [.string BindGroups.viewLabel, .string BindGroups.arrayLabel,
      .string BindGroups.viewDimension, .string ColorFormat.rgbaSrgb.label]
  | sampler =>
    line "sampler" (.string BindGroups.samplerLabel :: labels BindGroups.addressModes ::
      BindGroups.filters.map .string)
  | bindGroup label layout members =>
    line "bind_group" [.string label, .string layout, numbered (fun m => [.string m]) members]
  | write w => line "write" [.string w.role.label, .nat 0, .nat w.data.length]
  | writeLayer size layer =>
    line "write_texture" [.string BindGroups.arrayLabel, .nat layer, .list .nat [size, size]]

end DeviceEvent

namespace PassCommand

open Trace

/-- A command of a pass into targets of a size as a line of a trace. -/
def toJson (number : Float32 → Json) (size : List Nat) : PassCommand → Json
  | start clear =>
    line "begin_pass" [.string passLabel, .list .nat size,
      .array [.array [.string "color", .bool true, .bool true, .list number clear.toList]],
      .array [.string "depth", .bool true, .bool true, number clearDepth]]
  | setPipeline label => line "set_pipeline" [.string label]
  | setBindGroup index label => line "set_bind_group" [.nat index, .string label, .array []]
  | setVertexBuffer slot role =>
    line "set_vertex_buffer" [.nat slot, .string role.label, .nat 0, .null]
  | setIndexBuffer role =>
    line "set_index_buffer" [.string role.label, .string "Uint32", .nat 0, .null]
  | draw offset commands =>
    line "draw_indexed_indirect"
      [.string BufferRole.commands.label, .nat offset, .list command commands]
  | finish => line "end_pass" []

end PassCommand

end SceneBatch
