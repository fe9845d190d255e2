import SceneBatch.Files.Tree
import SceneBatch.Geometry.Vector
import SceneBatch.Toml.Reader

/-!
# Renderer configuration

How much a renderer allocates and how it treats textures and skeletons, read from a TOML file in
which every field may be left out. A configuration is accepted if it allows a joint, a texture
layer of a size that devices support, and at least one skeleton in the palette.
-/

namespace SceneBatch

/-- Buffer capacities, in elements. -/
structure BufferLimits where
  vertices : UInt32 := 1048576
  indices : UInt32 := 3145728
  instances : UInt32 := 20000
  draws : UInt32 := 4096
  lights : UInt32 := 16
  /-- Joint matrices of all animated instances of a frame. -/
  paletteMatrices : UInt32 := 10240
  deriving DecidableEq, Repr

/-- A renderer configuration. -/
structure RenderConfig where
  /-- Joints kept of each skin. -/
  maxJoints : Nat := 20
  /-- Texture units handed out in a frame. -/
  maxTextureUnits : UInt32 := 16
  /-- Extension of the texture files in a device's own format. -/
  textureExtension : String := "ktx2"
  /-- Edge length of each layer of the texture array. -/
  textureSize : UInt32 := 256
  clearColor : Vec4 Float32 := ⟨0.05, 0.05, 0.08, 1⟩
  limits : BufferLimits := {}

namespace RenderConfig

/-- Whether two configurations say the same. Colors are compared as numbers. -/
def sameValues (c d : RenderConfig) : Bool :=
  c.maxJoints = d.maxJoints ∧ c.maxTextureUnits = d.maxTextureUnits ∧
    c.textureExtension = d.textureExtension ∧ c.textureSize = d.textureSize ∧
    (c.clearColor.toList.zip d.clearColor.toList).all (fun (x, y) => x == y) ∧
    c.limits = d.limits

/-- The largest edge of a texture layer. -/
def maxTextureSize : UInt32 := 8192

/-- The largest value of a field of 32 bits. -/
def largest32 : Nat := 4294967295

/-- The largest value of a field of 64 bits. -/
def largest64 : Nat := 18446744073709551615

/-- Read a field of 32 bits. -/
def readUInt32 (v : TomlValue) : Option UInt32 := UInt32.ofNat <$> v.toNat? largest32

/-- Read a color of four components. -/
def readColor (v : TomlValue) : Option (Vec4 Float32) := do Vec4.ofList? (← v.toSingles? 4)

/-- Read the buffer capacities. -/
def readLimits (v : TomlValue) : Option BufferLimits := do
  let d : BufferLimits := {}
  let r ← v.toRecord? ["max_vertices", "max_indices", "max_instances", "max_draws", "max_lights",
    "max_palette_matrices"]
  return {
    vertices := ← TomlRecord.field r "max_vertices" readUInt32 d.vertices
    indices := ← TomlRecord.field r "max_indices" readUInt32 d.indices
    instances := ← TomlRecord.field r "max_instances" readUInt32 d.instances
    draws := ← TomlRecord.field r "max_draws" readUInt32 d.draws
    lights := ← TomlRecord.field r "max_lights" readUInt32 d.lights
    paletteMatrices := ← TomlRecord.field r "max_palette_matrices" readUInt32 d.paletteMatrices }

/-- Read the fields of a configuration. -/
def read (v : TomlValue) : Option RenderConfig := do
  let d : RenderConfig := {}
  let r ← v.toRecord? []
  return {
    maxJoints := ← TomlRecord.field r "max_joints" (·.toNat? largest64) d.maxJoints
    maxTextureUnits := ← TomlRecord.field r "max_texture_units" readUInt32 d.maxTextureUnits
    textureExtension :=
      ← TomlRecord.field r "texture_extension" TomlValue.toText? d.textureExtension
    textureSize := ← TomlRecord.field r "texture_size" readUInt32 d.textureSize
    clearColor := ← TomlRecord.field r "clear_color" readColor d.clearColor
    limits := ← TomlRecord.field r "limits" readLimits d.limits }

/-- The joint cap as a number of 32 bits, which is how buffers count joints. -/
def jointCount (c : RenderConfig) : UInt32 := UInt32.ofNat c.maxJoints

/-- The fault of a configuration that no renderer can work with. -/
def fault? (c : RenderConfig) : Option Fault :=
  if c.maxJoints = 0 then some (.config "max_joints must be at least 1")
  else if c.textureSize = 0 ∨ maxTextureSize < c.textureSize then
    some (.config s!"texture_size must be between 1 and {maxTextureSize}")
  else if c.limits.paletteMatrices < c.jointCount then
    some (.config "limits.max_palette_matrices must hold at least one skeleton")
  else none

/-- Read a configuration from its text. -/
def ofText (text : String) : Except Fault RenderConfig :=
  match Toml.ofText? text >>= read with
  | none => .error (.toml "not a configuration")
  | some c =>
    match c.fault? with
    | some fault => .error fault
    | none => .ok c

/-- Read a configuration file. -/
def load (files : FileTree) (path : Path) : Except Fault RenderConfig :=
  match files.readText path with
  | .error cause => .error (.file cause)
  | .ok text =>
    match ofText text with
    | .ok c => .ok c
    | .error fault =>
      .error (.config s!"Failed to parse config {path.text}: {fault.message}")

/-- Read a configuration file if there is one; otherwise every field has its default. -/
def loadOrDefault (files : FileTree) (path : Path) : Except Fault RenderConfig :=
  if files.exists? path then load files path else .ok {}

/-- How many whole skeletons fit into the palette. -/
def paletteSlots (c : RenderConfig) : UInt32 := c.limits.paletteMatrices / c.jointCount

end RenderConfig

end SceneBatch
