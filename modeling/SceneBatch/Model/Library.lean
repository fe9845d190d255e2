import SceneBatch.Log
import SceneBatch.Texture.Source

/-!
# Model libraries

The models that are loaded, by their names. A name is the last part of the path, so a model of the
same name in another directory replaces the one that was there.
-/

namespace SceneBatch

/-- Loaded models by name. `textureExtension` is that of the texture files next to them. -/
structure ModelLibrary where
  models : List (String × Model) := []
  textureExtension : String := "ktx2"

/-- Those who take part in the loading of a model. Textures are announced to one of them; an
animated model is handed over to the other, which says whether it was new. -/
structure LoadListeners (τ σ : Type) where
  announce : τ → String × TextureSource → τ
  animate : σ → Model → Logged (Except Fault Bool × σ)

namespace Model

/-- Read a model file. It is known by the last part of its path. -/
def load (files : FileTree) (path : Path) : Except Fault Model := do
  let format ← ModelFormat.ofPath path
  match path.fileName? with
  | none => throw (.importing (.badPath path.text))
  | some name =>
    match files.read path with
    | .error cause => throw (.file cause)
    | .ok bytes => Model.ofBytes files name bytes format path

/-- Read a model from bytes, as if they were a file of the given name in a directory. -/
def loadBytes (files : FileTree) (name : String) (bytes : Bytes) (directory : Path) :
    Except Fault Model := do
  let path := directory.join name
  let format ← ModelFormat.ofPath path
  Model.ofBytes files name bytes format path

end Model

namespace ModelLibrary

variable (l : ModelLibrary)

/-- A library without models. -/
def empty (textureExtension : String) : ModelLibrary := { textureExtension }

/-- The model of a name. -/
def find? (name : String) : Option Model := l.models.lookup name

/-- The model of a name, which must be there. -/
def get (name : String) : Except Fault Model :=
  match l.find? name with
  | some m => .ok m
  | none => .error (.modelNotFound name)

/-- Whether there is a model of a name. -/
def contains (name : String) : Bool := (l.find? name).isSome

/-- The number of models. -/
def size : Nat := l.models.length

/-- The names of the models in order. -/
def names : List String := (l.models.map Prod.fst).mergeSort fun a b => decide (a ≤ b)

/-- Put a model under its name. -/
def insert (m : Model) : ModelLibrary :=
  { l with models := (m.name, m) :: l.models.filter (·.1 ≠ m.name) }

/-- Take all models away. -/
def clear : ModelLibrary := { l with models := [] }

/-! ### Loading -/

/-- What the log says about a model that was handed over to be animated. -/
def logHandOver (name : String) : Except Fault Bool → Logged Unit
  | .ok true => .debug s!"skeletal animation extracted for '{name}'"
  | .ok false => .debug s!"skeletal animation for '{name}' already loaded"
  | .error f => .warn s!"no skeletal animation for '{name}': {f.message}"

/-- Put a model under its name, and tell if it replaces another one. -/
def replace (m : Model) : Logged ModelLibrary := do
  if let some old := l.find? m.name then
    Logged.warn s!"model '{m.name}' from {old.path.text} replaced by a file with the same name"
  return l.insert m

/-- Take in a model: announce its textures, hand it over if it is animated, and put it under its
name. What becomes of its animation does not matter to the model. -/
def receive {τ σ : Type} (listeners : LoadListeners τ σ) (m : Model) (isAnimated : Bool)
    (textures : τ) (animations : σ) : Logged (τ × σ × ModelLibrary) := do
  let textures := (m.textures l.textureExtension).foldl listeners.announce textures
  -- a model that cannot be animated is taken in all the same
  let animations ←
    if isAnimated then do
      let (answer, animations) ← listeners.animate animations m
      logHandOver m.name answer
      pure animations
    else pure animations
  return (textures, animations, ← l.replace m)

end ModelLibrary

end SceneBatch
