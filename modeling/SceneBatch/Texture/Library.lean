import SceneBatch.Log
import SceneBatch.Texture.Reader

/-!
# Texture libraries

The textures that models announced, by name, and the units that textures are bound to. A unit is
stale from the moment its texture changes until its layer of the device's texture array is filled
again.
-/

namespace SceneBatch

/-- A texture unit: the texture bound to it, and whether its layer is out of date. -/
structure TextureUnit where
  bound : Option String := none
  isStale : Bool := false
  deriving DecidableEq

/-- Textures by name, and the texture units. -/
structure TextureLibrary where
  sources : List (String × TextureSource) := []
  units : List TextureUnit
  layerSize : Nat

namespace TextureLibrary

/-- A library without textures. Layers have at least one texel. -/
def empty (unitCount layerSize : Nat) : TextureLibrary :=
  { units := List.replicate unitCount {}, layerSize := max layerSize 1 }

variable (l : TextureLibrary)

/-- The source of a texture. -/
def find? (name : String) : Option TextureSource := l.sources.lookup name

/-- Whether there is a texture of a name. -/
def contains (name : String) : Bool := (l.find? name).isSome

/-- The number of textures. -/
def size : Nat := l.sources.length

/-- The texture bound to a unit. -/
def bound? (unit : Nat) : Option String := do (← l.units[unit]?).bound

/-- Announce a texture, or announce it anew. Units that it is bound to become stale. -/
def register (name : String) (source : TextureSource) : TextureLibrary :=
  { l with
    sources := (name, source) :: l.sources.filter (·.1 ≠ name)
    units := l.units.map fun u => if u.bound = some name then { u with isStale := true } else u }

/-- Bind a texture to a unit. The answer says whether there are such a texture and such a unit;
the unit becomes stale unless the texture is bound to it already. -/
def bind (name : String) (unit : Nat) : Logged (Bool × TextureLibrary) := do
  if ¬l.contains name then
    Logged.warn s!"texture '{name}' was never registered"
    return (false, l)
  else
    match l.units[unit]? with
    | none => return (false, l)
    | some u =>
      -- bound already: the layer need not be filled again
      if u.bound = some name then return (true, l)
      else return (true, { l with units := l.units.set unit ⟨some name, true⟩ })

/-- The stale units in order. -/
def staleUnits : List Nat := (l.units.zipIdx.filter (·.1.isStale)).map Prod.snd

/-- Take it that no unit is stale any more. -/
def settle : TextureLibrary :=
  { l with units := l.units.map fun u => { u with isStale := false } }

/-! ### Pixels -/

/-- The image of a texture: the file in the device's format, otherwise what the model refers to. -/
def readTexture (reader : PictureReader) (name : String) (source : TextureSource) :
    Logged (Option reader.Image) := do
  match reader.openFile source.native with
  | .ok image => return some image
  | .error reason =>
    Logged.debug s!"{name}: {source.native.text} not decodable ({reason})"
    -- a model's own image is looked at only where the file is of no use
    match source.fallback.map reader.read with
    | none => return none
    | some (.ok image) => return some image
    | some (.error reason) =>
      Logged.warn s!"texture '{name}' could not be decoded, using white: {reason}"
      return none

/-- The layer of a texture: its image in the size of a layer, white where it has none. -/
def layer (reader : PictureReader) (name : String) : Logged Picture := do
  match l.find? name with
  | none => return .white l.layerSize
  | some source =>
    match ← readTexture reader name source with
    | none => return .white l.layerSize
    | some image => return reader.resize image l.layerSize

end TextureLibrary

end SceneBatch
