import SceneBatch.Geometry.Matrix

/-!
# Keyframe tracks

A track gives one property of one joint at certain times. `findKeyframe` says between which two
keys a time lies, and `Track.sample` gives the property there: the earlier key's value, or a blend
of both. Outside its keys a track holds its first and last value.
-/

namespace SceneBatch

/-- How the values between two keys come about. -/
inductive Interpolation where
  | step
  | linear
  deriving DecidableEq, Repr

namespace Interpolation

/-- The name of an interpolation. -/
def name : Interpolation → String
  | step => "Step"
  | linear => "Linear"

end Interpolation

/-- The keys on both sides of a time, and how far the time is from the first to the second. -/
structure KeyPosition (α : Type) where
  prev : Nat
  next : Nat
  fraction : α
  deriving DecidableEq

variable {α : Type} [Scalar α]

/-- Look for the first pair of neighbours with `time` between them. The key at `index` has the
time `t`, those behind it have the other times. -/
def findBracket (time : α) (index : Nat) (t : α) : List α → Option (KeyPosition α)
  | [] => none
  | u :: rest =>
    if t ≤ time ∧ time < u then
      let span := u - t
      some ⟨index, index + 1, if 0 < span then (time - t) / span else 0⟩
    else findBracket time (index + 1) u rest

/-- The keys around a time. A time at or before the first key, or at or after the last, is that
key; so is, among times that are out of order, one that lies between no neighbours. -/
def findKeyframe (times : List α) (time : α) : KeyPosition α :=
  match times with
  | [] => ⟨0, 0, 0⟩
  | first :: rest =>
    let final := rest.length
    if time ≤ first then ⟨0, 0, 0⟩
    else if rest.getLast?.getD first ≤ time then ⟨final, final, 0⟩
    else (findBracket time 0 first rest).getD ⟨final, final, 0⟩

/-- Values that can be blended. -/
class Blend (α υ : Type) where
  blend : υ → υ → α → υ

instance : Blend α (Vec3 α) := ⟨fun a b t => a + (b - a) * t⟩

instance : Blend α (Quat α) := ⟨Quat.slerp⟩

/-- The values of one property at certain times. -/
structure Track (α υ : Type) where
  times : List α := []
  values : List υ := []
  interpolation : Interpolation := .linear

namespace Track

variable {υ : Type}

/-- Whether a track has no keys. -/
def isEmpty (t : Track α υ) : Bool := t.times.isEmpty || t.values.isEmpty

/-- The time of the last key. -/
def lastTime? (t : Track α υ) : Option α := t.times.getLast?

/-- The value at a time. A track without keys has none, nor has one that lacks the value of a key
it needs. -/
def sample [Blend α υ] (t : Track α υ) (time : α) : Option υ :=
  if t.isEmpty then none
  else
    let key := findKeyframe t.times time
    match t.values[key.prev]? with
    | none => none
    | some prev =>
      if key.prev = key.next ∨ t.interpolation = .step then some prev
      else t.values[key.next]?.map fun next => Blend.blend prev next key.fraction

end Track

end SceneBatch
