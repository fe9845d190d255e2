import SceneBatch.Frame.Basic
import SceneBatch.Text.Column

/-!
# Reports

What the commands print: a model and its skeleton, joint matrices, and a frame.
-/

namespace SceneBatch

namespace Report

/-! ### Models -/

/-- A name, or a dash where there is none. -/
def nameText (name : Option String) : String := name.getD "-"

/-- Numbers in brackets. -/
def listText (ns : List Nat) : String := "[" ++ ", ".intercalate (ns.map toString) ++ "]"

/-- The default scene of a document. -/
def sceneLine (d : Gltf.Document) : String :=
  match d.scene, d.defaultRoots? with
  | some scene, some roots => s!"Default scene: {scene} (root nodes {listText roots})"
  | _, _ => "Default scene: none"

/-- What a node has. -/
def nodeLine (place : Nat) (n : Gltf.Node) : String :=
  let parts := (n.mesh.map fun mesh => s!"mesh {mesh}").toList ++
    (n.skin.map fun skin => s!"skin {skin}").toList ++
    (if n.children.isEmpty then [] else [s!"{n.children.length} children"])
  s!"  [{place}] {Column.left 20 (nameText n.name)} " ++ ", ".intercalate parts

/-- The number of vertices of a mesh. -/
def vertexCount (d : Gltf.Document) (mesh : Gltf.Mesh) : Nat :=
  let counts := mesh.primitives.filterMap fun p => do
    return (← d.accessors[← p.attribute? .position]?).count
  counts.foldr (· + ·) 0

/-- The primitives, vertices and base color of a mesh. -/
def meshLine (m : Model) (place : Nat) (mesh : Gltf.Mesh) : String :=
  let texture := match mesh.primitives.findSome? m.baseColorTexture? with
    | some name => s!", base color '{name}'"
    | none => ""
  s!"  [{place}] {Column.left 20 (nameText mesh.name)} {mesh.primitives.length} primitive(s), " ++
    s!"{vertexCount m.document mesh} vertices{texture}"

/-- A model. -/
def modelLines (m : Model) (textureCount : Nat) : List String :=
  let d := m.document
  [s!"Model: {m.name}", s!"Path: {m.path.text}", sceneLine d, "", s!"Nodes ({d.nodes.length}):"] ++
    (d.nodes.zipIdx.map fun (n, place) => nodeLine place n) ++
    ["", s!"Meshes ({d.meshes.length}):"] ++
    (d.meshes.zipIdx.map fun (mesh, place) => meshLine m place mesh) ++
    ["", s!"Skins: {d.skins.length}", s!"Animations: {d.clips.length}",
      s!"Textures registered: {textureCount}"]

/-! ### Skeletons -/

/-- A bone and its parent. -/
def boneLine (place : Nat) (b : Bone Float32) : String :=
  let parent := nameText (b.parent.map toString)
  s!"  [{place}] {Column.left 20 b.name} parent {Column.left 3 parent} " ++
    (if b.isAnimated then "animated" else "rest")

/-- A skeleton, or why there is none. -/
def skeletonLines : Except Fault (Skeleton Float32) → List String
  | .error fault => ["", s!"Skeletal animation: none ({fault.message})"]
  | .ok s =>
    ["", s!"Skeletal animation: {s.bones.length} bones (cap {s.maxJoints}), " ++
      s!"clip {nameText s.clip}, {Single.fixedText 3 s.duration}s"] ++
      (s.bones.zipIdx.map fun (b, place) => boneLine place b)

/-- A row of a matrix. -/
def rowLine (row : List Float32) : String :=
  "  [" ++ " ".intercalate (row.map fun x => Column.right 9 (Single.fixedText 4 x)) ++ "]"

/-- A joint with its matrix. -/
def jointLines (place : Nat) (b : Bone Float32) (matrix : Mat4 Float32) : List String :=
  ["", s!"joint {place} {b.name}"] ++ matrix.rows.map rowLine

/-- The joint matrices of a skeleton at a time. -/
def poseLines (name : String) (s : Skeleton Float32) (time : Float32) : List String :=
  (s!"{name}: {s.bones.length} bones, clip {Single.fixedText 3 s.duration}s, " ++
    s!"t = {Single.shortestText time} (wrapped {Single.fixedText 4 (s.wrapTime time)})") ::
    ((s.bones.zip (s.jointMatrices time)).zipIdx.flatMap fun ((b, matrix), place) =>
      jointLines place b matrix)

/-! ### Frames -/

/-- An entry of a batch. -/
def entryLine (e : MeshEntry) : String :=
  let field (n : Nat) : String := Column.right 6 (toString n)
  let start (n : Nat) : String := Column.left 7 (toString n)
  s!"  {Column.left 28 e.key.text} vertices {field e.vertexCount} @ {start e.baseVertex} " ++
    s!"indices {field e.indexCount} @ {start e.firstIndex} instances {e.instanceCount}" ++
    (if e.isSkinned then " (skinned)" else "")

/-- A draw command. -/
def commandLine (place : Nat) (c : DrawCommand) : String :=
  s!"  [{place}] index_count {c.indexCount} instance_count {c.instanceCount} " ++
    s!"first_index {c.firstIndex} base_vertex {c.baseVertex} first_instance {c.firstInstance}"

/-- A frame. -/
def frameLines (f : Frame) : List String :=
  let s := f.stats
  ["", s!"Instances: {s.staticInstances} static, {s.animatedInstances} animated, " ++
      s!"{s.skipped} skipped; {s.lights} light(s)",
    "", s!"Mesh entries ({s.entries}):"] ++ f.batch.entries.map entryLine ++
    ["", s!"Indirect commands ({f.draws.commands.length}):"] ++
    (f.draws.commands.zipIdx.map fun (c, place) => commandLine place c) ++
    ["", s!"Materials: {f.draws.materials.length}  Palette matrices: {f.palette.length}  " ++
      s!"Triangles: {s.triangles}"]

end Report

end SceneBatch
