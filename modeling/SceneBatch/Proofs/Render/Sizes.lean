import SceneBatch.Device.Capacity
import SceneBatch.Frame.Basic
import SceneBatch.Proofs.Render.Config
import SceneBatch.Proofs.Traverse

/-!
# Sizes that a configuration gives

Buffers, batches, frames and skeleton libraries each take their sizes from the configuration, some
of them in 32 bits. `RenderConfig.IsExact` says that none of these computations loses anything: the
palette has room for all of its slots, there is a place for the record that ends the lights, and
everyone counts the joints of a skeleton alike. The check that a configuration has passed compares
the joints in 32 bits too, and does not look at the lights. So an accepted configuration is exact
when both numbers are small enough, and only then (`isExact_iff`); with a joint more than 32 bits
can count, the palette is divided into slots none of which has room for a skeleton
(`exists_slot_without_room`).
-/

namespace SceneBatch

namespace RenderConfig

/-- All sizes that are computed from a configuration are those that it asks for. -/
structure IsExact (c : RenderConfig) : Prop where
  /-- The palette is not divided by zero. -/
  divisor : c.jointCount ≠ 0
  slot : 1 ≤ c.paletteSlots.toNat
  palette : c.paletteSlots.toNat * c.maxJoints ≤ c.limits.paletteMatrices.toNat
  /-- Behind the lights there is room for one record. -/
  lights : (Capacity.ofConfig c).lights.toNat = c.limits.lights.toNat + 1
  batch : (Batch.empty c.maxTextureUnits.toNat c.maxJoints).maxJoints = c.maxJoints
  frame : (Frame.empty c).maxJoints = c.maxJoints ∧ (Frame.empty c).batch.maxJoints = c.maxJoints
  skeletons : (Assets.empty c).skeletons.maxJoints = c.maxJoints

variable {c : RenderConfig}

/-! ### Joints -/

/-- A batch counts joints in 32 bits, and so loses the rest of a cap that needs more. -/
theorem maxJoints_batch_eq_iff (maxUnits : Nat) {maxJoints : Nat} (hpos : 1 ≤ maxJoints) :
    (Batch.empty maxUnits maxJoints).maxJoints = maxJoints ↔ maxJoints ≤ largest32 := by
  have hcap : (Batch.empty maxUnits maxJoints).maxJoints = maxJoints % 2 ^ 32 := by
    show (UInt32.ofNat (max maxJoints 1)).toNat = _
    rw [Nat.max_eq_left hpos, UInt32.toNat_ofNat']
  rw [hcap, largest32]
  omega

/-- The palette of a usable configuration has a slot, and room for all of its slots, exactly when
32 bits suffice for the joints of a skeleton. -/
theorem IsUsable.slots_fit_iff (h : c.IsUsable) :
    (1 ≤ c.paletteSlots.toNat ∧
        c.paletteSlots.toNat * c.maxJoints ≤ c.limits.paletteMatrices.toNat) ↔
      c.maxJoints ≤ largest32 := by
  constructor
  · rintro ⟨hslot, hroom⟩
    -- a slot has room for a skeleton, and the palette is counted with 32 bits
    have hjoints : c.maxJoints ≤ c.limits.paletteMatrices.toNat :=
      calc c.maxJoints
        _ = 1 * c.maxJoints := (Nat.one_mul _).symm
        _ ≤ c.paletteSlots.toNat * c.maxJoints := Nat.mul_le_mul_right _ hslot
        _ ≤ c.limits.paletteMatrices.toNat := hroom
    exact hjoints.trans (Nat.le_of_lt_succ c.limits.paletteMatrices.toNat_lt)
  · intro hmax
    refine ⟨?_, paletteSlots_mul_le hmax⟩
    have hskeleton := h.skeleton
    rw [toNat_jointCount hmax] at hskeleton
    rw [toNat_paletteSlots hmax]
    exact Nat.div_pos hskeleton h.joints

/-! ### Lights -/

/-- There is room behind the lights exactly when their number is not the largest of its width. -/
theorem toNat_lights_eq_iff :
    (Capacity.ofConfig c).lights.toNat = c.limits.lights.toNat + 1 ↔
      c.limits.lights.toNat < largest32 := by
  have hlights := c.limits.lights.toNat_lt
  have hsum : (Capacity.ofConfig c).lights.toNat = (c.limits.lights.toNat + 1) % 2 ^ 32 :=
    UInt32.toNat_add ..
  rw [hsum, largest32]
  omega

/-! ### Accepted configurations -/

/-- A configuration that was accepted gives exactly the sizes that it asks for when 32 bits suffice
for the joints of a skeleton and for one more than the lights, and only then. -/
theorem isExact_iff {text : String} (h : ofText text = .ok c) :
    c.IsExact ↔ c.maxJoints ≤ largest32 ∧ c.limits.lights.toNat < largest32 := by
  have husable := isUsable_of_ofText h
  constructor
  · intro hexact
    exact ⟨husable.slots_fit_iff.mp ⟨hexact.slot, hexact.palette⟩,
      toNat_lights_eq_iff.mp hexact.lights⟩
  · rintro ⟨hmax, hlights⟩
    obtain ⟨hslot, hroom⟩ := husable.slots_fit_iff.mpr hmax
    have hcap := (maxJoints_batch_eq_iff c.maxTextureUnits.toNat husable.joints).mpr hmax
    have hmaxJoints : max c.maxJoints 1 = c.maxJoints := Nat.max_eq_left husable.joints
    refine ⟨?_, hslot, hroom, toNat_lights_eq_iff.mpr hlights, hcap, ⟨hmaxJoints, hcap⟩,
      hmaxJoints⟩
    -- The joint count in 32 bits is at least one, since nothing was cut.
    intro hzero
    have hcount := toNat_jointCount hmax
    rw [hzero] at hcount
    exact absurd hcount.symm (Nat.ne_of_gt husable.joints)

/-- The largest numbers for which a configuration is exact. -/
theorem isExact_of_largest :
    ∃ c, ofText ("max_joints = 4294967295\n[limits]\nmax_lights = 4294967294\n" ++
        "max_palette_matrices = 4294967295") = .ok c ∧
      c.maxJoints = largest32 ∧ c.limits.lights.toNat + 1 = largest32 ∧ c.IsExact := by
  have hread : (ofText ("max_joints = 4294967295\n[limits]\nmax_lights = 4294967294\n" ++
      "max_palette_matrices = 4294967295")).toOption.map
      (fun c => (c.maxJoints, c.limits.lights.toNat)) = some (4294967295, 4294967294) := by
    decide +kernel
  obtain ⟨c, hc, hsizes⟩ := exists_of_toOption_map_eq_some hread
  obtain ⟨hjoints, hlights⟩ := Prod.mk.inj hsizes
  refine ⟨c, hc, hjoints, congrArg (· + 1) hlights, (isExact_iff hc).mpr ⟨?_, ?_⟩⟩
  · rw [hjoints]
    decide
  · rw [hlights]
    decide

/-- A cap of which 32 bits leave a single joint is accepted. Each matrix of the palette counts as a
slot then, although no skeleton fits. -/
theorem exists_slot_without_room :
    ∃ c, ofText "max_joints = 4294967297" = .ok c ∧ c.paletteSlots = 10240 ∧
      c.limits.paletteMatrices.toNat < c.maxJoints ∧ ¬c.IsExact := by
  -- One joint too many for 32 bits, which then count a single one.
  have hread : (ofText "max_joints = 4294967297").toOption.map
      (fun c => (c.maxJoints, c.limits.paletteMatrices)) = some (4294967297, 10240) := by
    decide +kernel
  obtain ⟨c, hc, hsizes⟩ := exists_of_toOption_map_eq_some hread
  obtain ⟨hjoints, hpalette⟩ := Prod.mk.inj hsizes
  have hslots : c.paletteSlots = 10240 := by
    rw [paletteSlots, jointCount, hjoints, hpalette]
    decide
  refine ⟨c, hc, hslots, by rw [hjoints, hpalette]; decide, ?_⟩
  intro hexact
  have hroom := hexact.palette
  rw [hslots, hjoints, hpalette] at hroom
  revert hroom
  decide

end RenderConfig

end SceneBatch
