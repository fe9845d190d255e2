import SceneBatch.Animation.Library
import SceneBatch.Model.Library
import SceneBatch.Render.Config
import SceneBatch.Scene.File
import SceneBatch.Texture.Library

/-!
# Assets

The models, skeletons and textures that frames are made from. Loading a model announces its
textures and, if it is animated, makes its skeleton; a model that cannot be read changes nothing.
-/

namespace SceneBatch

/-- Models, skeletons and textures. -/
structure Assets where
  models : ModelLibrary
  skeletons : SkeletonLibrary
  textures : TextureLibrary

namespace Assets

/-- Nothing loaded yet. -/
def empty (c : RenderConfig) : Assets where
  models := .empty c.textureExtension
  skeletons := .empty c.maxJoints
  textures := .empty c.maxTextureUnits.toNat c.textureSize.toNat

/-- Textures go to the texture library, animated models to the skeleton library. -/
def listeners : LoadListeners TextureLibrary SkeletonLibrary where
  announce l t := l.register t.1 t.2
  animate l m := do
    let (isNew, l) ← l.add m.name m
    return (.ok isNew, l)

variable (a : Assets)

/-- Take in a model. -/
def add (m : Model) (isAnimated : Bool) : Logged Assets := do
  let (textures, skeletons, models) ← a.models.receive listeners m isAnimated a.textures a.skeletons
  return { models, skeletons, textures }

/-- Take in a model if it could be read. The answer is its name. -/
def addRead (isAnimated : Bool) : Except Fault Model → Logged (Except Fault String × Assets)
  | .error fault => return (.error fault, a)
  | .ok m => do return (.ok m.name, ← a.add m isAnimated)

/-- Load a model file. -/
def load (files : FileTree) (path : Path) (isAnimated : Bool) :
    Logged (Except Fault String × Assets) :=
  a.addRead isAnimated (Model.load files path)

/-- Load a model from bytes. -/
def loadBytes (files : FileTree) (name : String) (bytes : Bytes) (directory : Path)
    (isAnimated : Bool) : Logged (Except Fault String × Assets) :=
  a.addRead isAnimated (Model.loadBytes files name bytes directory)

/-- Load a model of a scene, and tell what became of it. -/
def loadSceneModel (files : FileTree) (directory : Path) (state : Nat × Assets) (r : ModelRef) :
    Logged (Nat × Assets) := do
  let (count, a) := state
  let path := directory.join r.path
  match ← a.load files path r.animated with
  | (.ok name, a) =>
    Logged.info s!"loaded model '{name}'"
    return (count + 1, a)
  | (.error fault, a) =>
    Logged.warn s!"model {path.text} not loaded: {fault.message}"
    return (count, a)

/-- Load the models of a scene from a directory. The answer says how many could be loaded. -/
def loadScene (files : FileTree) (directory : Path) (s : SceneFile) : Logged (Nat × Assets) :=
  s.models.foldlM (loadSceneModel files directory) (0, a)

end Assets

end SceneBatch
