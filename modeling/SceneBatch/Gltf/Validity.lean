import SceneBatch.Gltf.Document

/-!
# Valid documents

A document is valid when its references lead somewhere and its data can be found. The node that a
channel targets is not looked at.
-/

namespace SceneBatch

namespace Gltf

/-- Whether an optional reference leads into a list of `count` things. -/
def leads (reference : Option Nat) (count : Nat) : Bool := reference.all (· < count)

/-- Whether references lead into a list of `count` things. -/
def allLead (references : List Nat) (count : Nat) : Bool := references.all (· < count)

/-- The steps that a view may make from one element to the next. -/
def View.hasValidStride (v : View) : Bool := v.stride.all fun s => 4 ≤ s ∧ s ≤ 252

/-- Whether a clip's samplers lead to accessors and its channels to samplers. -/
def Clip.isValid (c : Clip) (accessors : Nat) : Bool :=
  c.samplers.all (fun s => s.input < accessors && s.output < accessors) &&
    c.channels.all (·.sampler < c.samplers.length)

namespace Document

variable (d : Document)

/-- Whether an accessor has data. -/
def isValidAccessor (a : Accessor) : Bool :=
  leads a.view d.views.length && (a.view.isSome || a.sparse.isSome) &&
    a.sparse.all fun s => s.placeView < d.views.length && s.valueView < d.views.length

/-- Whether a primitive has positions within given bounds, and its parts are there. -/
def isValidPrimitive (p : Primitive) : Bool :=
  allLead (p.attributes.map Prod.snd) d.accessors.length &&
    leads p.indices d.accessors.length && leads p.material d.materials.length &&
    allLead p.morphs d.accessors.length &&
    ((p.attribute? .position).bind (d.accessors[·]?)).any Accessor.isBounded

/-- Whether what a node refers to is there. -/
def isValidNode (n : Node) : Bool :=
  leads n.mesh d.meshes.length && leads n.skin d.skins.length && leads n.camera d.cameras &&
    allLead n.children d.nodes.length

/-- Whether the pixels of an image can be looked for. -/
def isValidImage (i : Image) : Bool :=
  match i.place with
  | .view view => view < d.views.length
  | _ => true

/-- Whether a document is valid. -/
def isValid : Bool :=
  d.accessors.all d.isValidAccessor &&
    d.views.all (fun v => v.buffer < d.buffers.length && v.hasValidStride) &&
    d.images.all d.isValidImage &&
    d.textures.all (fun t => t.source < d.images.length && leads t.sampler d.samplers) &&
    d.materials.all (fun m =>
      leads m.baseColor d.textures.length && allLead m.others d.textures.length) &&
    d.meshes.all (fun m => m.primitives.all d.isValidPrimitive) &&
    d.nodes.all d.isValidNode &&
    d.scenes.all (allLead · d.nodes.length) &&
    leads d.scene d.scenes.length &&
    d.skins.all (fun s => allLead s.joints d.nodes.length &&
      leads s.inverseBinds d.accessors.length && leads s.skeleton d.nodes.length) &&
    d.clips.all (Clip.isValid · d.accessors.length)

end Document

end Gltf

end SceneBatch
