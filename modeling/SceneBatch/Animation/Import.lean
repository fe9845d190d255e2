import SceneBatch.Animation.Skeleton
import SceneBatch.Log
import SceneBatch.Model.Basic

/-!
# Skeletons of models

The skeleton of a model is its first skin with its first clip. Joints past a cap are dropped, and
so are channels that target anything else than a joint. A model without a skin has a skeleton
without bones.
-/

namespace SceneBatch

namespace Gltf

namespace Property

/-- The name of a property in a log line. -/
def label : Property → String
  | position => "Translation"
  | rotation => "Rotation"
  | scale => "Scale"
  | weights => "MorphTargetWeights"

end Property

namespace SamplerMode

/-- How a track joins the values of a sampler. A spline is joined by straight lines. -/
def interpolation : SamplerMode → Interpolation
  | linear | cubicSpline => .linear
  | step => .step

end SamplerMode

end Gltf

namespace Track

variable {υ : Type}

/-- A track of as many keys as there are both times and values. -/
def ofKeys (times : List Float32) (values : List υ) (interpolation : Interpolation) :
    Track Float32 υ :=
  let keys := min times.length values.length
  ⟨times.take keys, values.take keys, interpolation⟩

/-- Replace a track by one of the given times and values. Nothing changes if there are none of
them. The answer is the time of the last key. -/
def store (t : Track Float32 υ) (times : List Float32) (values : List υ)
    (interpolation : Interpolation) : Logged (Option Float32 × Track Float32 υ) := do
  let keys := min times.length values.length
  if keys = 0 then return (none, t)
  else
    if times.length ≠ values.length then
      Logged.debug s!"{times.length} times vs {values.length} values, keeping {keys} keys"
    let new := ofKeys times values interpolation
    return (new.lastTime?, new)

end Track

/-- The values of a channel by what they animate. -/
inductive ChannelValues where
  | positions (values : List (Vec3 Float32))
  | rotations (values : List (Quat Float32))
  | scales (values : List (Vec3 Float32))
  | weights

namespace ChannelValues

/-- Of splines' triples of tangent, value and tangent, the values. -/
def middles : List α → List α
  | _ :: b :: _ :: rest => b :: middles rest
  | _ => []

/-- The values at the keys of a sampler. -/
def keyed (mode : Gltf.SamplerMode) (values : List α) : List α :=
  if mode = .cubicSpline then middles values else values

/-- Read the values of a channel from its accessor; none where data is missing. Rotations may be
stored as fractions. -/
def read? (a : Gltf.Asset) (x : Gltf.Accessor) : Gltf.Property → Option ChannelValues
  | .position => (a.singles? x 3).map fun es => .positions (es.filterMap Vec3.ofList?)
  | .rotation => (a.fractions? x 4).map fun es => .rotations (es.filterMap Quat.ofList?)
  | .scale => (a.singles? x 3).map fun es => .scales (es.filterMap Vec3.ofList?)
  | .weights => (a.fractions? x 1).map fun _ => .weights

end ChannelValues

namespace Bone

/-- Replace the track that values belong to. Weights have none. -/
def store (b : Bone Float32) (times : List Float32) (mode : Gltf.SamplerMode) :
    ChannelValues → Logged (Option Float32 × Bone Float32)
  | .positions values => do
    let (last, track) ←
      b.position.store times (ChannelValues.keyed mode values) mode.interpolation
    return (last, { b with position := track })
  | .rotations values => do
    let (last, track) ← b.rotation.store times (ChannelValues.keyed mode values) mode.interpolation
    return (last, { b with rotation := track })
  | .scales values => do
    let (last, track) ← b.scale.store times (ChannelValues.keyed mode values) mode.interpolation
    return (last, { b with scale := track })
  | .weights => return (none, b)

end Bone

namespace Skeleton

/-- The inverse bind matrices of a skin. -/
def inverseBinds (a : Gltf.Asset) (skin : Gltf.Skin) : List (Mat4 Float32) :=
  let elements := do a.singles? (← a.document.accessors[← skin.inverseBinds]?) 16
  (elements.getD []).filterMap Mat4.ofList?

/-- The parent of a joint: the last one among whose children the joint's node is. A node that is
listed as a joint twice has a parent at its first place only. -/
def parentOf? (d : Gltf.Document) (joints : List Nat) (place : Nat) : Option Nat :=
  (joints.zipIdx.filter fun (joint, _) =>
    (d.node joint).children.any fun child => joints.idxOf? child = some place).getLast?.map Prod.snd

/-- The bones of joints. -/
def bonesOf (d : Gltf.Document) (joints : List Nat) (binds : List (Mat4 Float32)) :
    List (Bone Float32) :=
  joints.zipIdx.map fun (joint, place) =>
    let node := d.node joint
    { name := node.name.getD s!"joint_{place}"
      node := joint
      parent := parentOf? d joints place
      inverseBind := (binds[place]?).getD .identity
      rest := node.pose }

/-- The times and values of a channel; none where data is missing. -/
def readChannel? (a : Gltf.Asset) (clip : Gltf.Clip) (c : Gltf.Channel) :
    Option (List Float32 × Gltf.SamplerMode × ChannelValues) := do
  let sampler ← clip.samplers[c.sampler]?
  let times ← a.singles? (← a.document.accessors[sampler.input]?) 1
  let values ← ChannelValues.read? a (← a.document.accessors[sampler.output]?) (← c.property)
  return (times.flatten, sampler.mode, values)

/-- Give a channel's values to the bone of its node. The clip lasts at least up to the channel's
last key. -/
def addChannel (a : Gltf.Asset) (clip : Gltf.Clip) (s : Skeleton Float32) (c : Gltf.Channel) :
    Logged (Skeleton Float32) := do
  -- of several bones of one node the first is meant
  match s.bones.findIdx? (·.node = c.node), s.bones.find? (·.node = c.node) with
  | some place, some bone =>
    match readChannel? a clip c with
    | none =>
      Logged.warn s!"{s.name}: channel on node {c.node} has no data"
      return s
    | some (times, mode, values) =>
      match ← bone.store times mode values with
      | (some last, bone) =>
        return { s with
          bones := s.bones.set place bone, duration := Single.larger s.duration last }
      | (none, _) =>
        -- there were too few values for a track, or they are weights
        let property := (c.property.map Gltf.Property.label).getD ""
        Logged.debug s!"{s.name}: skipped {property} channel on joint '{bone.name}'"
        return s
  | _, _ =>
    Logged.debug s!"{s.name}: channel targets non-joint node {c.node}"
    return s

/-- The joints of a skin that are kept. -/
def keptJoints (name : String) (skin : Gltf.Skin) (maxJoints : Nat) : Logged (List Nat) := do
  let count := skin.joints.length
  if maxJoints < count then
    Logged.warn s!"{name}: skin has {count} joints, keeping the first {maxJoints}"
  return skin.joints.take maxJoints

/-- The skeleton of a model, under a name of its own. -/
def ofModel (name : String) (m : Model) (maxJoints : Nat) : Logged (Skeleton Float32) := do
  let d := m.document
  match d.skins with
  | [] =>
    Logged.debug s!"{name}: no skin, posing with an empty skeleton"
    return { name, clip := none, bones := [], duration := 0, maxJoints }
  | skin :: others =>
    if others ≠ [] then
      Logged.warn s!"{name}: only the first of {d.skins.length} skins is used"
    let joints ← keptJoints name skin maxJoints
    let bones := bonesOf d joints (inverseBinds m.asset skin)
    let s : Skeleton Float32 := { name, clip := none, bones, duration := 0, maxJoints }
    -- poses are made from the first bone to the last
    if s.hasUnorderedParents then
      Logged.warn s!"{name}: skin lists a child joint before its parent, poses will be wrong"
    match d.clips with
    | [] =>
      Logged.debug s!"{name}: skin has no animation clip, rest pose only"
      return s
    | clip :: _ => clip.channels.foldlM (addChannel m.asset clip) { s with clip := clip.name }

end Skeleton

end SceneBatch
