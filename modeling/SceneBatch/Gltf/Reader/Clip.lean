import SceneBatch.Gltf.Document
import SceneBatch.Gltf.Reader.Basic

/-!
# Reading skins and clips
-/

namespace SceneBatch

namespace Gltf

/-- A skin. -/
def readSkin (v : RawJson) : Option Skin := do
  let r ← readRecord ["extensions", "extras", "inverseBindMatrices", "joints", "name",
    "skeleton"] 6 v
  let _ ← r.optionalField "name" RawJson.toText?
  return { joints := ← r.requiredField "joints" (·.toList? readIndex)
           inverseBinds := ← r.optionalField "inverseBindMatrices" readIndex
           skeleton := ← r.optionalField "skeleton" readIndex }

/-- The animated property of a channel. A word that names none is kept as such. -/
def readProperty (v : RawJson) : Option (Option Property) := do
  let words := [("translation", .position), ("rotation", .rotation), ("scale", .scale),
    ("weights", .weights)]
  return words.lookup (← v.toText?)

/-- A channel. -/
def readChannel (v : RawJson) : Option Channel := do
  let r ← readRecord ["sampler", "target", "extensions", "extras"] 2 v
  let target ← r.requiredField "target" (readRecord ["extensions", "extras", "node", "path"] 4)
  return { sampler := ← r.requiredField "sampler" readIndex
           node := ← target.requiredField "node" readIndex
           property := ← target.requiredField "path" readProperty }

/-- A sampler of a clip. -/
def readClipSampler (v : RawJson) : Option ClipSampler := do
  let r ← readRecord ["extensions", "extras", "input", "interpolation", "output"] 5 v
  let words := [("LINEAR", .linear), ("STEP", .step), ("CUBICSPLINE", .cubicSpline)]
  return { input := ← r.requiredField "input" readIndex
           output := ← r.requiredField "output" readIndex
           mode := ← r.field "interpolation" (readWord words) .linear }

/-- A clip. -/
def readClip (v : RawJson) : Option Clip := do
  let r ← readRecord ["extensions", "extras", "channels", "name", "samplers"] 5 v
  return { name := ← r.optionalField "name" RawJson.toText?
           channels := ← r.requiredField "channels" (·.toList? readChannel)
           samplers := ← r.requiredField "samplers" (·.toList? readClipSampler) }

end Gltf

end SceneBatch
