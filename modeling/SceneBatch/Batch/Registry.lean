import SceneBatch.Render.Record
import SceneBatch.Texture.Library

/-!
# Instance registries

The instances of each entry of a batch, and the texture units that entries are bound to. Units are
given out in order, up to a cap.
-/

namespace SceneBatch

/-- The instances of one entry and its texture unit. -/
structure EntryInstances where
  records : List InstanceRecord := []
  material : Option Nat := none
  deriving DecidableEq

/-- The instances of all entries, and the texture bindings in the order they were made. -/
structure InstanceRegistry where
  slots : List EntryInstances := []
  bindings : List MaterialBinding := []
  maxUnits : Nat
  deriving DecidableEq

namespace InstanceRegistry

/-- A registry without entries. -/
def empty (maxUnits : Nat) : InstanceRegistry := { maxUnits }

variable (r : InstanceRegistry)

/-- Make room for one more entry. -/
def addEntry : InstanceRegistry := { r with slots := r.slots ++ [{}] }

/-- Add an instance of an entry. Nothing happens if there is no such entry. -/
def push (entry : Nat) (record : InstanceRecord) : InstanceRegistry :=
  { r with slots := r.slots.modify entry fun s => { s with records := s.records ++ [record] } }

/-- The instances of an entry. -/
def instances (entry : Nat) : List InstanceRecord :=
  ((r.slots[entry]?).map EntryInstances.records).getD []

/-- The texture unit of an entry. -/
def material? (entry : Nat) : Option Nat := do (← r.slots[entry]?).material

/-- The number of instances of all entries. -/
def instanceCount : Nat := (r.slots.map fun s => s.records.length).foldr (· + ·) 0

/-- Bind a texture to the next unit, for an entry that has none yet. The answer is the entry's
unit: none past the cap, or if the texture cannot be bound. -/
def bindMaterial (entry : Nat) (texture : String) (textures : TextureLibrary) :
    Logged (Option Nat × InstanceRegistry × TextureLibrary) := do
  match r.material? entry with
  -- a unit is given once
  | some unit => return (some unit, r, textures)
  | none =>
    let unit := r.bindings.length
    if r.maxUnits ≤ unit then
      Logged.warn s!"texture unit cap ({r.maxUnits}) reached, '{texture}' draws untextured"
      return (none, r, textures)
    else
      match ← textures.bind texture unit with
      -- the unit stays free for the next texture
      | (false, textures) => return (none, r, textures)
      | (true, textures) =>
        let slots := r.slots.modify entry fun s => { s with material := some unit }
        let bindings := r.bindings ++ [⟨Int32.ofNat unit⟩]
        return (some unit, { r with slots, bindings }, textures)

/-- Drop all entries and bindings. -/
def clear : InstanceRegistry := .empty r.maxUnits

end InstanceRegistry

end SceneBatch
