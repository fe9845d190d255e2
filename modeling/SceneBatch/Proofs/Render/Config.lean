import Mathlib
import SceneBatch.Render.Config

/-!
# Accepted configurations

A configuration that was read from a text or a file has been checked (`RenderConfig.IsUsable`), and
so have the defaults. As long as the joints of a skeleton can be counted with 32 bits, the palette
has room for all slots that it is divided into (`RenderConfig.paletteSlots_mul_le`), whether or not
the division leaves a rest.
-/

namespace SceneBatch

namespace RenderConfig

variable {c : RenderConfig}

/-- What a configuration must say to be accepted. -/
structure IsUsable (c : RenderConfig) : Prop where
  joints : 1 ≤ c.maxJoints
  layer : 1 ≤ c.textureSize.toNat ∧ c.textureSize.toNat ≤ maxTextureSize.toNat
  skeleton : c.jointCount.toNat ≤ c.limits.paletteMatrices.toNat

theorem fault?_eq_none_iff : c.fault? = none ↔ c.IsUsable := by
  have hlayer : ¬(c.textureSize = 0 ∨ maxTextureSize < c.textureSize) ↔
      1 ≤ c.textureSize.toNat ∧ c.textureSize.toNat ≤ maxTextureSize.toNat := by
    rw [← UInt32.toNat_inj, UInt32.lt_iff_toNat_lt, UInt32.toNat_zero]
    omega
  have hskeleton : ¬c.limits.paletteMatrices < c.jointCount ↔
      c.jointCount.toNat ≤ c.limits.paletteMatrices.toNat := by
    rw [UInt32.lt_iff_toNat_lt, not_lt]
  unfold fault?
  constructor
  · intro h
    -- the three checks, in their order
    split at h
    · cases h
    · next hjoints =>
      split at h
      · cases h
      · next hsize =>
        split at h
        · cases h
        · next hroom =>
          exact ⟨Nat.one_le_iff_ne_zero.mpr hjoints, hlayer.mp hsize, hskeleton.mp hroom⟩
  · intro h
    rw [if_neg (Nat.one_le_iff_ne_zero.mp h.joints), if_neg (hlayer.mpr h.layer),
      if_neg (hskeleton.mpr h.skeleton)]

/-! ### Where configurations come from -/

theorem isUsable_default : ({} : RenderConfig).IsUsable :=
  fault?_eq_none_iff.mp (by decide)

theorem isUsable_of_ofText {text : String} (h : ofText text = .ok c) : c.IsUsable := by
  unfold ofText at h
  split at h
  · cases h
  · next read hread =>
    split at h
    · cases h
    · next hnone =>
      cases h
      exact fault?_eq_none_iff.mp hnone

theorem isUsable_of_load {files : FileTree} {path : Path} (h : load files path = .ok c) :
    c.IsUsable := by
  unfold load at h
  split at h
  · cases h
  · next text htext =>
    split at h
    · next c' hc' =>
      cases h
      exact isUsable_of_ofText hc'
    · cases h

/-- Whatever the file says, and if there is none, a configuration to start with is usable. -/
theorem isUsable_of_loadOrDefault {files : FileTree} {path : Path}
    (h : loadOrDefault files path = .ok c) : c.IsUsable := by
  unfold loadOrDefault at h
  split at h
  · exact isUsable_of_load h
  · cases h
    exact isUsable_default

/-! ### Slots of the palette -/

theorem toNat_jointCount (hmax : c.maxJoints ≤ largest32) : c.jointCount.toNat = c.maxJoints := by
  rw [jointCount, UInt32.toNat_ofNat']
  exact Nat.mod_eq_of_lt (Nat.lt_succ_of_le hmax)

theorem toNat_paletteSlots (hmax : c.maxJoints ≤ largest32) :
    c.paletteSlots.toNat = c.limits.paletteMatrices.toNat / c.maxJoints := by
  rw [paletteSlots, UInt32.toNat_div, toNat_jointCount hmax]

/-- The slots of the palette fit into it. -/
theorem paletteSlots_mul_le (hmax : c.maxJoints ≤ largest32) :
    c.paletteSlots.toNat * c.maxJoints ≤ c.limits.paletteMatrices.toNat := by
  rw [toNat_paletteSlots hmax]
  exact Nat.div_mul_le_self ..

end RenderConfig

end SceneBatch
