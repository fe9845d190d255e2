import SceneBatch.Proofs.Frame.Palette
import SceneBatch.Proofs.Frame.Units
import SceneBatch.Proofs.Render.Config
import SceneBatch.Proofs.Render.Lights

/-!
# Budgets of a frame

Joint matrices, lights and texture bindings are counted while a frame is built, and what is past a
budget is left out. The buffers are checked for their sizes by other code, when the frame is
uploaded. `Frame.KeepsBudgets` says that the two agree: these checks never refuse a frame that was
built for the same configuration, so that only the sizes that building does not limit can be too
much for a device (`Frame.Overflows`). It holds for every world and any assets
(`keepsBudgets_build`).
-/

namespace SceneBatch

open Batch FrameDraft

namespace Frame

variable {f : Frame} {w : World} {a : Assets} {c : RenderConfig}

/-! ### What building limits -/

/-- There is a run of the palette for each slot that is taken, and the slots fit. -/
theorem MadeFor.length_palette_le (hf : f.MadeFor c) (hpos : 1 ≤ c.maxJoints)
    (hmax : c.maxJoints ≤ RenderConfig.largest32) (w : World) (a : Assets) :
    (f.build w a).value.1.palette.length ≤ c.limits.paletteMatrices.toNat :=
  calc (f.build w a).value.1.palette.length
    _ = (f.drafted w a).stats.animatedInstances * f.maxJoints :=
        (hf.isLimited.sound_drafted w a).palette
    _ ≤ f.paletteSlots * f.maxJoints :=
        Nat.mul_le_mul_right _ (hf.isLimited.taken_drafted_le w a)
    _ = c.paletteSlots.toNat * c.maxJoints := by
        rw [hf.keepsOnly.paletteSlots, hf.maxJoints_eq hpos]
    _ ≤ c.limits.paletteMatrices.toNat := RenderConfig.paletteSlots_mul_le hmax

theorem KeepsOnly.length_lights_le (hf : f.KeepsOnly c) (w : World) (a : Assets) :
    (f.build w a).value.1.lights.length ≤ c.limits.lights.toNat + 1 := by
  rw [build_value, ← hf.maxLights]
  show (collectLights w f.maxLights).value.length ≤ f.maxLights + 1
  rw [length_collectLights]
  exact Nat.succ_le_succ (Nat.min_le_right ..)

/-- There is a binding for each texture unit that is given out. -/
theorem MadeFor.length_materials_le (hf : f.MadeFor c) (w : World) (a : Assets) :
    (f.build w a).value.1.draws.materials.length ≤ c.maxTextureUnits.toNat := by
  have hbound : (f.drafted w a).batch.registry.bindings.length ≤
      (f.drafted w a).batch.registry.maxUnits := by
    refine drafted_induction
      (I := fun b _ => b.registry.bindings.length ≤ b.registry.maxUnits) w (Nat.zero_le _) ?_
    intro b c _ hb
    exact length_bindings_after hb c
  rw [draws_build, (sound_drafted f w a).ofBatch_eq, ← hf.maxUnits_drafted w a]
  exact hbound

/-! ### What it does not limit -/

/-- The ways in which a frame can be too much for the buffers of a configuration, and the fault of
each: vertices and indices, if they have to be written, commands and instances. -/
inductive Overflows (g : Frame) (c : RenderConfig) : Fault → Prop
  | vertices (hdirty : g.batch.isDirty = true)
      (h : c.limits.vertices.toNat < g.batch.staging.vertexCount) :
      Overflows g c
        (.capacityExceeded "vertex" g.batch.staging.vertexCount c.limits.vertices.toNat)
  | indices (hdirty : g.batch.isDirty = true)
      (h : c.limits.indices.toNat < g.batch.staging.indices.length) :
      Overflows g c
        (.capacityExceeded "index" g.batch.staging.indices.length c.limits.indices.toNat)
  | commands (h : c.limits.draws.toNat < g.draws.commands.length) :
      Overflows g c (.capacityExceeded "indirect" g.draws.commands.length c.limits.draws.toNat)
  | instances (h : c.limits.instances.toNat < g.draws.instances.length) :
      Overflows g c
        (.capacityExceeded "instance" g.draws.instances.length c.limits.instances.toNat)

/-- What a batch is refused for, unless it is for its texture bindings. -/
theorem overflows_of_checkBatch_eq_error {g : Frame} {fault : Fault}
    (hmaterials : Capacity.ensure "material" g.draws.materials.length
      (Capacity.ofConfig c).materials = .ok ())
    (h : (Capacity.ofConfig c).checkBatch g.batch g.draws = .error fault) :
    g.Overflows c fault := by
  have hdraws : (Capacity.ofConfig c).checkDraws g.draws = .error fault → g.Overflows c fault := by
    intro h
    rcases bind_eq_error_iff.mp h with h | ⟨_, -, h⟩
    · obtain ⟨hless, rfl⟩ := Capacity.ensure_eq_error_iff.mp h
      exact .commands hless
    · rcases bind_eq_error_iff.mp h with h | ⟨_, -, h⟩
      · obtain ⟨hless, rfl⟩ := Capacity.ensure_eq_error_iff.mp h
        exact .instances hless
      · cases hmaterials.symm.trans h
  unfold Capacity.checkBatch at h
  -- geometry is checked only where it has to be written
  cases hdirty : g.batch.isDirty with
  | false =>
      rw [hdirty] at h
      exact hdraws h
  | true =>
      rw [hdirty] at h
      rcases bind_eq_error_iff.mp h with h | ⟨_, -, h⟩
      · rcases bind_eq_error_iff.mp h with h | ⟨_, -, h⟩
        · obtain ⟨hless, rfl⟩ := Capacity.ensure_eq_error_iff.mp h
          exact .vertices hdirty hless
        · obtain ⟨hless, rfl⟩ := Capacity.ensure_eq_error_iff.mp h
          exact .indices hdirty hless
      · exact hdraws h

theorem not_overflows_of_checkBatch_eq_ok {g : Frame} {fault : Fault}
    (h : (Capacity.ofConfig c).checkBatch g.batch g.draws = .ok ()) : ¬g.Overflows c fault := by
  have hfits := Capacity.checkBatch_eq_ok_iff.mp h
  rintro (⟨hdirty, hless⟩ | ⟨hdirty, hless⟩ | hless | hless)
  · exact Nat.not_lt_of_le (hfits.vertices hdirty) hless
  · exact Nat.not_lt_of_le (hfits.indices hdirty) hless
  · exact Nat.not_lt_of_le hfits.commands hless
  · exact Nat.not_lt_of_le hfits.instances hless

/-! ### Built frames -/

/-- A frame that fits the buffers of its configuration as far as building limits it: the bounds, the
checks for them, and what is left for an upload to refuse. -/
structure KeepsBudgets (g : Frame) (c : RenderConfig) : Prop where
  palette : g.palette.length ≤ c.limits.paletteMatrices.toNat
  lights : g.lights.length ≤ c.limits.lights.toNat + 1
  materials : g.draws.materials.length ≤ max c.maxTextureUnits.toNat 1
  checkPalette : (Capacity.ofConfig c).checkPalette g.palette = .ok ()
  checkLights : (Capacity.ofConfig c).checkLights g.lights = .ok ()
  checkMaterials : Capacity.ensure "material" g.draws.materials.length
    (Capacity.ofConfig c).materials = .ok ()
  accepted : ∀ (r : Renderer), r.MadeFor c → ∀ reader a uniforms,
    (r.uploadFrame reader g a uniforms).value.1.result = .ok () ↔ ∀ fault, ¬g.Overflows c fault
  refused : ∀ (r : Renderer), r.MadeFor c → ∀ reader a uniforms fault,
    (r.uploadFrame reader g a uniforms).value.1.result = .error fault → g.Overflows c fault

/-- Every frame that is built for a configuration that was accepted, from any world and any assets,
keeps its budgets. -/
theorem keepsBudgets_build {text : String} (hc : RenderConfig.ofText text = .ok c)
    (hmax : c.maxJoints ≤ RenderConfig.largest32)
    (hlights : c.limits.lights.toNat < RenderConfig.largest32) (hf : f.MadeFor c) (w : World)
    (a : Assets) : (f.build w a).value.1.KeepsBudgets c := by
  have hpos := (RenderConfig.isUsable_of_ofText hc).joints
  have hroom := elements_ofConfig hlights
  have hpalette := hf.length_palette_le hpos hmax w a
  have hlight := hf.keepsOnly.length_lights_le w a
  have hmaterial := (hf.length_materials_le w a).trans (Nat.le_max_left _ 1)
  have haligned : (f.build w a).value.1.batch.staging.IsAligned := (sound_drafted f w a).aligned
  generalize (f.build w a).value.1 = g at *
  -- palette, lights and bindings fit by the bounds
  have hcheckPalette : (Capacity.ofConfig c).checkPalette g.palette = .ok () :=
    Capacity.checkPalette_eq_ok_iff.mpr hpalette
  have hcheckLights : (Capacity.ofConfig c).checkLights g.lights = .ok () := by
    rw [Capacity.checkLights_eq_ok_iff, hroom]
    exact hlight
  have hcheckMaterials : Capacity.ensure "material" g.draws.materials.length
      (Capacity.ofConfig c).materials = .ok () := by
    rw [Capacity.ensure_eq_ok_iff]
    exact hmaterial.trans_eq (congrFun hroom .materials).symm
  -- so the batch alone decides on an upload
  have hresult : ∀ (r : Renderer), r.MadeFor c → ∀ reader a uniforms,
      (r.uploadFrame reader g a uniforms).value.1.result =
        (Capacity.ofConfig c).checkBatch g.batch g.draws := by
    intro r hr reader a uniforms
    exact hr.upload_result haligned reader g.draws a.textures uniforms hcheckPalette hcheckLights
  refine ⟨hpalette, hlight, hmaterial, hcheckPalette, hcheckLights, hcheckMaterials, ?_, ?_⟩
  · intro r hr reader a uniforms
    rw [hresult r hr reader a uniforms]
    constructor
    · intro hok fault
      exact not_overflows_of_checkBatch_eq_ok hok
    · intro hnone
      by_contra hnot
      obtain ⟨fault, hfault⟩ := Capacity.exists_fault hnot
      exact hnone fault (overflows_of_checkBatch_eq_error hcheckMaterials hfault)
  · intro r hr reader a uniforms fault hfault
    rw [hresult r hr reader a uniforms] at hfault
    exact overflows_of_checkBatch_eq_error hcheckMaterials hfault

/-- Two skeletons of seven joints fit into a palette of twenty matrices, and leave a rest. -/
theorem uneven_build_keepsBudgets :
    ∃ c, RenderConfig.ofText "max_joints = 7\n[limits]\nmax_palette_matrices = 20" = .ok c ∧
      c.paletteSlots.toNat * c.maxJoints = 14 ∧ c.limits.paletteMatrices.toNat = 20 ∧
      c.maxJoints ≤ RenderConfig.largest32 ∧ c.limits.lights.toNat < RenderConfig.largest32 ∧
      (Frame.empty c).MadeFor c ∧
      ((Frame.empty c).build .plain (.plain c)).value.1.KeepsBudgets c := by
  -- the defaults are in the text's configuration too, so the reader is run
  have hread : (RenderConfig.ofText
      "max_joints = 7\n[limits]\nmax_palette_matrices = 20").toOption.map
      (fun c => (c.maxJoints, c.limits.paletteMatrices, c.limits.lights)) = some (7, 20, 16) := by
    decide +kernel
  cases hc : RenderConfig.ofText "max_joints = 7\n[limits]\nmax_palette_matrices = 20" with
  | error fault =>
      rw [hc] at hread
      cases hread
  | ok c =>
      rw [hc] at hread
      simp only [Except.toOption, Option.map_some, Option.some.injEq, Prod.mk.injEq] at hread
      obtain ⟨hjoints, hpalette, hlights⟩ := hread
      have hmax : c.maxJoints ≤ RenderConfig.largest32 := by
        rw [hjoints]
        decide
      have hlimit : c.limits.lights.toNat < RenderConfig.largest32 := by
        rw [hlights]
        decide
      have hslots : c.paletteSlots.toNat * c.maxJoints = 14 := by
        rw [RenderConfig.toNat_paletteSlots hmax, hpalette, hjoints]
        decide
      have hf : (Frame.empty c).MadeFor c := .new
      exact ⟨c, rfl, hslots, by rw [hpalette]; decide, hmax, hlimit, hf,
        keepsBudgets_build hc hmax hlimit hf .plain (.plain c)⟩

end Frame

end SceneBatch
