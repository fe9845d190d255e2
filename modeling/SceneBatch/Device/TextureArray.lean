import SceneBatch.Texture.Library

/-!
# Texture arrays

The base colors on the device: one layer of texels for each texture unit, white until a texture is
bound to the unit and the layer is filled.
-/

namespace SceneBatch

/-- The layers of a texture array, square pictures of one size. -/
structure TextureArray where
  size : Nat
  layers : List Picture

namespace TextureArray

/-- An array of white layers, at least one of at least one texel. -/
def white (layerCount size : Nat) : TextureArray :=
  let size := max size 1
  ⟨size, List.replicate (max layerCount 1) (.white size)⟩

/-- The layer that a unit should have: its texture, if the library makes layers of the array's
size, otherwise white. -/
def layerFor (a : TextureArray) (reader : PictureReader) (l : TextureLibrary) (unit : Nat) :
    Logged Picture :=
  match l.bound? unit with
  | some name => if l.layerSize = a.size then l.layer reader name else return .white a.size
  | none => return .white a.size

/-- Fill the layer of a unit; the answer has the units that were filled, with their layers. -/
def fill (reader : PictureReader) (l : TextureLibrary) (state : List (Nat × Picture) × TextureArray)
    (unit : Nat) : Logged (List (Nat × Picture) × TextureArray) := do
  let (written, a) := state
  if a.layers.length ≤ unit then return (written, a)
  else
    let layer ← a.layerFor reader l unit
    return (written ++ [(unit, layer)], { a with layers := a.layers.set unit layer })

/-- Fill the layers of all stale units. The answer has the layers that were written. -/
def flush (a : TextureArray) (reader : PictureReader) (l : TextureLibrary) :
    Logged (List (Nat × Picture) × TextureArray × TextureLibrary) := do
  let (written, a) ← l.staleUnits.foldlM (fill reader l) ([], a)
  return (written, a, l.settle)

end TextureArray

end SceneBatch
