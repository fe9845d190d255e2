import SceneBatch.Files.Tree
import SceneBatch.Gltf.Container
import SceneBatch.Json.Basic

/-!
# Sample models

Small models built in memory. A sample collects one buffer of data, an accessor for each run of
values in it, and further members of the document. It can be packed into a container, or written
as a document with its buffer beside it.
-/

namespace SceneBatch

/-- A part of a sample's buffer. -/
structure SampleView where
  offset : Nat
  length : Nat
  deriving DecidableEq, Repr

/-- How the values of a sample's accessor are stored: single-precision numbers with their bounds,
or integers of two bytes. -/
inductive SampleValues where
  | singles (min max : List Float32)
  | shorts

/-- The values of one kind in one view of a sample. -/
structure SampleAccessor where
  view : Nat
  values : SampleValues
  count : Nat
  shape : String

/-- A model under construction. -/
structure Sample where
  data : Bytes := []
  views : List SampleView := []
  accessors : List SampleAccessor := []
  members : List (String × Json) := []

namespace Sample

/-- Add a run of bytes behind those before, at the next multiple of four. -/
def addView (s : Sample) (b : Bytes) : Sample :=
  let data := s.data.padTo 4 0
  { s with data := data ++ b, views := s.views ++ [⟨data.length, b.length⟩] }

/-- Add an accessor of a run of bytes. -/
def addAccessor (s : Sample) (b : Bytes) (values : SampleValues) (count : Nat) (shape : String) :
    Sample :=
  let t := s.addView b
  { t with accessors := t.accessors ++ [⟨s.views.length, values, count, shape⟩] }

/-- Combine the components of bounds with those of an element, which may be the shorter. -/
def boundWith (f : Float32 → Float32 → Float32) : List Float32 → List Float32 → List Float32
  | b :: bounds, x :: xs => f b x :: boundWith f bounds xs
  | bounds, _ => bounds

/-- Cut a list into elements of `width` values; the last one may be shorter. -/
def chunked (width : Nat) : List α → List (List α)
  | [] => []
  | x :: xs =>
    if width = 0 then [] else (x :: xs).take width :: chunked width (xs.drop (width - 1))
termination_by xs => xs.length
decreasing_by
  simp only [List.length_drop, List.length_cons]
  omega

/-- The smallest value of each component. -/
def lowest (width : Nat) (xs : List Float32) : List Float32 :=
  (chunked width xs).foldl (boundWith Single.smaller) (List.replicate width Single.infinity)

/-- The largest value of each component. -/
def highest (width : Nat) (xs : List Float32) : List Float32 :=
  (chunked width xs).foldl (boundWith Single.larger) (List.replicate width (-Single.infinity))

/-- Add an accessor of single-precision numbers given by their bit patterns, `width` for each
element; the answer is its place. -/
def addPatterns (patterns : List UInt32) (shape : String) (width : Nat) : StateM Sample Nat := do
  let s ← get
  let xs := patterns.map Float32.ofBits
  set (s.addAccessor (patterns.flatMap fun p => Bytes.ofNat 4 p.toNat)
    (.singles (lowest width xs) (highest width xs)) (patterns.length / width) shape)
  return s.accessors.length

/-- Add an accessor of single-precision numbers, `width` for each element; the answer is its
place. -/
def addSingles (xs : List Float32) (shape : String) (width : Nat) : StateM Sample Nat :=
  addPatterns (xs.map Float32.toBits) shape width

/-- Add an accessor of integers of two bytes, `width` for each element; the answer is its
place. -/
def addShorts (xs : List UInt16) (shape : String) (width : Nat) : StateM Sample Nat := do
  let s ← get
  set (s.addAccessor (xs.flatMap fun x => Bytes.ofNat 2 x.toNat) .shorts (xs.length / width) shape)
  return s.accessors.length

/-- Set a member of the document. -/
def setMember (key : String) (value : Json) : StateM Sample Unit :=
  modify fun s => { s with members := Json.insertMember key value.sortMembers s.members }

/-! ### The document -/

/-- A view in the document. -/
def viewJson (v : SampleView) : Json :=
  Json.sortedObject
    [("buffer", .nat 0), ("byteOffset", .nat v.offset), ("byteLength", .nat v.length)]

/-- An accessor in the document. -/
def accessorJson (a : SampleAccessor) : Json :=
  let common :=
    [("bufferView", Json.nat a.view), ("count", .nat a.count), ("type", .string a.shape)]
  match a.values with
  | .singles min max => Json.sortedObject (common ++
      [("componentType", .nat 5126), ("min", .list .single min), ("max", .list .single max)])
  | .shorts => Json.sortedObject (common ++ [("componentType", .nat 5123)])

/-- The buffer in the document, in a file of the given name or in the container. -/
def bufferJson (s : Sample) (uri : Option String) : Json :=
  Json.sortedObject (("byteLength", .nat s.data.length) ::
    (uri.map fun uri => ("uri", Json.string uri)).toList)

/-- The document. A member that was set replaces one that every sample has. -/
def document (s : Sample) (uri : Option String) : Json :=
  .object (Json.insertMembers s.members (Json.insertMembers
    [("asset", .object [("version", .string "2.0")]),
     ("buffers", .array [s.bufferJson uri]),
     ("bufferViews", .list viewJson s.views),
     ("accessors", .list accessorJson s.accessors)] []))

/-- The container of a sample. -/
def toContainer (s : Sample) : Gltf.Container :=
  ⟨Bytes.ofText (s.document none).compact, some s.data⟩

/-- The bytes of a sample's container. -/
def toBytes (s : Sample) : Bytes := s.toContainer.toBytes

/-- Write a sample as a document with its buffer beside it; the answer is the document's path. -/
def writeDocument (s : Sample) (files : FileTree) (directory : Path) (stem : String) :
    Path × FileTree :=
  let bufferName := stem ++ ".bin"
  let path := directory.join (stem ++ ".gltf")
  let text := (s.document (some bufferName)).pretty
  (path, (files.write (directory.join bufferName) s.data).write path (Bytes.ofText text))

/-- Write a sample as a container; the answer is its path. -/
def writeContainer (s : Sample) (files : FileTree) (directory : Path) (stem : String) :
    Path × FileTree :=
  let path := directory.join (stem ++ ".glb")
  (path, files.write path s.toBytes)

/-! ### Ready-made samples -/

/-- The corners of a triangle. -/
def corners : List Float32 := [0, 0, 0, 1, 0, 0, 0, 1, 0]

/-- An object of a document. -/
def object (members : List (String × Json)) : Json := Json.sortedObject members

/-- Numbers of a document. -/
def reals (xs : List Float) : Json := .list (fun x => .number (.real x)) xs

/-- References of a document. -/
def places (xs : List Nat) : Json := .list .nat xs

/-- A mesh of primitives with given attributes and further members. -/
def mesh (primitives : List (List (String × Nat) × List (String × Nat))) : Json :=
  object [("primitives", .list (fun (attributes, rest) =>
    object (("attributes", object (attributes.map fun (k, v) => (k, .nat v))) ::
      rest.map fun (k, v) => (k, .nat v))) primitives)]

/-- Give the document one scene with the given roots, which is the default one. -/
def setDefaultScene (roots : List Nat) : StateM Sample Unit := do
  setMember "scenes" (.array [object [("nodes", places roots)]])
  setMember "scene" (.nat 0)

/-- The sample that steps build. -/
def build (steps : StateM Sample Unit) : Sample := (steps.run {}).2

/-- One node with a triangle. -/
def triangle : Sample := build do
  let position ← addSingles corners "VEC3" 3
  let indices ← addShorts [0, 1, 2] "SCALAR" 1
  setMember "meshes" (.array [mesh [([("POSITION", position)], [("indices", indices)])]])
  setMember "nodes" (.array [object [("mesh", .nat 0)]])
  setDefaultScene [0]

/-- A scene that is not the default one. -/
def sceneless : Sample := build do
  let position ← addSingles corners "VEC3" 3
  setMember "meshes" (.array [mesh [([("POSITION", position)], [])]])
  setMember "nodes" (.array [object [("mesh", .nat 0)]])
  setMember "scenes" (.array [object [("nodes", places [0])]])

/-- Three nodes: an indexed triangle with normals and texture coordinates, moved up; a square of
six vertices, stretched; and one without a mesh. -/
def pair : Sample := build do
  let position ← addSingles corners "VEC3" 3
  let normal ← addSingles [0, 0, 1, 0, 0, 1, 0, 0, 1] "VEC3" 3
  let texcoord ← addSingles [0, 0, 1, 0, 0, 1] "VEC2" 2
  let indices ← addShorts [0, 1, 2] "SCALAR" 1
  let square ← addSingles [0, 0, 0, 1, 0, 0, 1, 1, 0, 0, 0, 0, 1, 1, 0, 0, 1, 0] "VEC3" 3
  setMember "meshes" (.array [
    mesh [([("POSITION", position), ("NORMAL", normal), ("TEXCOORD_0", texcoord)],
      [("indices", indices)])],
    mesh [([("POSITION", square)], [])]])
  setMember "nodes" (.array [
    object [("mesh", .nat 0), ("translation", reals [0, 1, 0])],
    object [("mesh", .nat 1), ("scale", reals [2, 2, 2])],
    object [("name", .string "empty")]])
  setDefaultScene [0, 1, 2]

/-- A triangle with a skeleton of two joints, `root` and above it `child`. The clip moves the child,
makes the root grow in one step, and turns the node of the mesh, which is no joint. -/
def skinned : Sample := build do
  let position ← addSingles corners "VEC3" 3
  let joints ← addShorts [0, 0, 0, 0, 1, 0, 0, 0, 1, 0, 0, 0] "VEC4" 4
  let weights ← addSingles [1, 0, 0, 0, 1, 0, 0, 0, 1, 0, 0, 0] "VEC4" 4
  let indices ← addShorts [0, 1, 2] "SCALAR" 1
  let binds ← addSingles
    [1, 0, 0, 0, 0, 1, 0, 0, 0, 0, 1, 0, 0, 0, 0, 1,
     1, 0, 0, 0, 0, 1, 0, 0, 0, 0, 1, 0, 0, -1, 0, 1] "MAT4" 16
  let times ← addSingles [0, 1] "SCALAR" 1
  let moves ← addSingles [0, 0, 0, 1, 0, 0] "VEC3" 3
  let spins ← addSingles [0, 0, 0, 1, 0, 0, 0, 1] "VEC4" 4
  let grows ← addSingles [1, 1, 1, 2, 2, 2] "VEC3" 3
  let channel (sampler node : Nat) (path : String) := object [("sampler", .nat sampler),
    ("target", object [("node", .nat node), ("path", .string path)])]
  setMember "meshes" (.array [mesh [
    ([("POSITION", position), ("JOINTS_0", joints), ("WEIGHTS_0", weights)],
      [("indices", indices)])]])
  setMember "nodes" (.array [
    object [("mesh", .nat 0), ("skin", .nat 0)],
    object [("name", .string "root"), ("children", places [2])],
    object [("name", .string "child"), ("translation", reals [0, 1, 0])]])
  setMember "skins" (.array [
    object [("joints", places [1, 2]), ("inverseBindMatrices", .nat binds)]])
  setMember "animations" (.array [object [
    ("samplers", .array [
      object [("input", .nat times), ("output", .nat moves)],
      object [("input", .nat times), ("output", .nat spins)],
      object [("input", .nat times), ("output", .nat grows), ("interpolation", .string "STEP")]]),
    ("channels", .array [channel 0 2 "translation", channel 1 0 "rotation", channel 2 1 "scale"])]])
  setDefaultScene [0, 1]

/-- Two meshes and an image named like a base color: the first mesh has a material with it, the
second has no material. -/
def textured : Sample := build do
  let position ← addSingles corners "VEC3" 3
  let texcoord ← addSingles [0, 0, 1, 0, 0, 1] "VEC2" 2
  let indices ← addShorts [0, 1, 2] "SCALAR" 1
  setMember "images" (.array [
    object [("uri", .string "crate_baseColor.png")], object [("uri", .string "crate_normal.png")]])
  setMember "textures" (.array [object [("source", .nat 0)], object [("source", .nat 1)]])
  setMember "materials" (.array [object [
    ("pbrMetallicRoughness", object [("baseColorTexture", object [("index", .nat 0)])]),
    ("normalTexture", object [("index", .nat 1)])]])
  setMember "meshes" (.array [
    mesh [([("POSITION", position), ("TEXCOORD_0", texcoord)],
      [("indices", indices), ("material", 0)])],
    mesh [([("POSITION", position)], [("indices", indices)])]])
  setMember "nodes" (.array [
    object [("mesh", .nat 0)], object [("mesh", .nat 1), ("translation", reals [2, 0, 0])]])
  setDefaultScene [0, 1]

/-- The sample of a name; any other name is that of an empty one. -/
def named : String → Sample
  | "triangle" => triangle
  | "sceneless" => sceneless
  | "pair" => pair
  | "skinned" => skinned
  | "textured" => textured
  | _ => {}

end Sample

end SceneBatch
