import SceneBatch.Batch.Registry
import SceneBatch.Batch.Staging
import SceneBatch.Model.Library

/-!
# Batches

A batch gathers what a frame draws. The geometry of a node of a model is copied into the staging
arrays once and becomes an entry; each instance of the node adds a record to that entry. Adding a
model either succeeds or changes nothing.
-/

namespace SceneBatch

/-- A node of a model. -/
structure MeshKey where
  model : String
  node : Nat
  deriving DecidableEq

namespace MeshKey

/-- The text of a key. -/
def text (k : MeshKey) : String := s!"{k.model}#{k.node}"

end MeshKey

/-- The part of the staging arrays that belongs to one node of a model. -/
structure MeshEntry where
  key : MeshKey
  firstIndex : Nat
  indexCount : Nat
  baseVertex : Nat
  vertexCount : Nat
  instanceCount : Nat
  isSkinned : Bool
  deriving DecidableEq

/-- What a frame draws. `isDirty` says that the staging arrays differ from what the device has,
`copies` how many meshes were copied into them. -/
structure Batch where
  entries : List MeshEntry := []
  registry : InstanceRegistry
  staging : Staging := {}
  isDirty : Bool := false
  maxJoints : Nat
  copies : Nat := 0
  deriving DecidableEq

/-- A node that is drawn for the first time: its decoded mesh and its base color. -/
structure PendingEntry where
  key : MeshKey
  parts : List MeshPart
  texture : Option String

namespace Batch

/-- A batch without entries. Joints are counted in 32 bits. -/
def empty (maxUnits maxJoints : Nat) : Batch where
  registry := .empty maxUnits
  maxJoints := (UInt32.ofNat (max maxJoints 1)).toNat

variable (b : Batch)

/-- Drop everything that was added. -/
def cleanUp : Batch :=
  { b with
    entries := [], registry := b.registry.clear, staging := {}, isDirty := false, copies := 0 }

/-- The place of the entry of a node; of several the last. -/
def place? (key : MeshKey) : Option Nat :=
  ((b.entries.zipIdx.filter fun (e, _) => e.key = key).getLast?).map Prod.snd

/-- The entry of a node. -/
def entry? (key : MeshKey) : Option MeshEntry := do b.entries[← b.place? key]?

/-- The number of instances. -/
def instanceCount : Nat := b.registry.instanceCount

/-- Take it that the device has the staging arrays. -/
def markClean : Batch := { b with isDirty := false }

/-! ### Adding models -/

/-- Those of some nodes that have a mesh, with their meshes. -/
def meshNodes (d : Gltf.Document) (nodes : List Nat) : List (Nat × Gltf.Mesh) :=
  nodes.filterMap fun node => do return (node, ← d.meshes[← (d.node node).mesh]?)

/-- Decode a node that has no entry yet. -/
def decodeEntry (m : Model) (name : String) (maxJoints node : Nat) (mesh : Gltf.Mesh) :
    Except Fault PendingEntry := do
  let parts ← mesh.primitives.mapM fun p => MeshPart.decode m p maxJoints
  return ⟨⟨name, node⟩, parts, mesh.primitives.findSome? m.baseColorTexture?⟩

/-- The nodes of a model that have no entry yet, decoded. -/
def pendingEntries (m : Model) (name : String) (nodes : List (Nat × Gltf.Mesh)) :
    Except Fault (List PendingEntry) :=
  (nodes.filter fun (node, _) => (b.place? ⟨name, node⟩).isNone).mapM fun (node, mesh) =>
    decodeEntry m name b.maxJoints node mesh

/-- Copy a decoded node into the staging arrays, and bind its base color. -/
def commit (state : Batch × TextureLibrary) (p : PendingEntry) :
    Logged (Batch × TextureLibrary) := do
  let (b, textures) := state
  let place := b.entries.length
  let staging := b.staging.addParts p.parts
  -- the ranges of the entry begin where the arrays ended before
  let entry : MeshEntry :=
    { key := p.key
      firstIndex := b.staging.indices.length
      indexCount := staging.indices.length - b.staging.indices.length
      baseVertex := b.staging.vertexCount
      vertexCount := staging.vertexCount - b.staging.vertexCount
      instanceCount := 0
      isSkinned := p.parts.any (·.influences.isSome) }
  Logged.trace (s!"mesh entry {p.key.text}: {entry.vertexCount} vertices, " ++
    s!"{entry.indexCount} indices")
  let b := { b with
    entries := b.entries ++ [entry], registry := b.registry.addEntry, staging
    copies := b.copies + 1 }
  -- a texture that gets no unit is no fault
  match p.texture with
  | none => return (b, textures)
  | some texture =>
    let (_, registry, textures) ← b.registry.bindMaterial place texture textures
    return ({ b with registry }, textures)

/-- Add an instance of a node to the node's entry. -/
def pushInstance (d : Gltf.Document) (name : String) (t : Transform) (animation : Int32) (b : Batch)
    (node : Nat) : Batch :=
  match b.place? ⟨name, node⟩ with
  | none => b
  | some place =>
    let pose := (d.node node).pose
    let placed := t.combine pose.position pose.rotation pose.scale
    let material : Int32 := match b.registry.material? place with
      | some unit => Int32.ofNat unit
      | none => -1
    { b with
      registry := b.registry.push place (.ofTransform placed material animation)
      entries := b.entries.modify place fun e =>
        { e with instanceCount := e.instanceCount + 1 } }

/-- What adding an instance of a model needs: the model, its root nodes with meshes, and those of
them that are new, decoded. -/
def plan (models : ModelLibrary) (name : String) :
    Except Fault (Model × List Nat × List PendingEntry) := do
  let m ← models.get name
  match m.document.defaultRoots? with
  | none => throw (.noDefaultScene name)
  | some roots =>
    -- root nodes without a mesh draw nothing
    let nodes := meshNodes m.document roots
    return (m, nodes.map Prod.fst, ← b.pendingEntries m name nodes)

/-- Add an instance of a model that stands at `t`: one record for each root node with a mesh.
Nodes without an entry are all decoded before anything changes. -/
def addModel (models : ModelLibrary) (name : String) (t : Transform) (animation : Int32)
    (textures : TextureLibrary) : Logged (Except Fault Unit × Batch × TextureLibrary) := do
  match b.plan models name with
  | .error fault => return (.error fault, b, textures)
  | .ok (m, nodes, pending) =>
    -- nothing can fail from here on
    let (b, textures) ← pending.foldlM commit (b, textures)
    let b := nodes.foldl (pushInstance m.document name t animation) b
    return (.ok (), { b with isDirty := true }, textures)

end Batch

end SceneBatch
