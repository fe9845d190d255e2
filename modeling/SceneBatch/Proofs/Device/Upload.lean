import SceneBatch.Device.Renderer
import SceneBatch.Proofs.Batch.Slots
import SceneBatch.Proofs.Device.Capacity
import SceneBatch.Proofs.Device.Memory

/-!
# Uploads are all or nothing

A renderer takes a frame as a whole or not at all. `upload_all_or_nothing` says which frames it
takes, namely those that its buffers have room for, that no write goes past the end of a buffer,
and that a frame that is refused leaves the batch and all buffers but the uniforms as they were,
with nothing to draw. This holds for every renderer and every batch however they came about
(`Renderer.MadeFor`, `Batch.Reached`).
-/

namespace SceneBatch

open Batch

namespace BatchBuffers

variable {buffers : BatchBuffers} {b : Batch} {d : Draws}

theorem uploadGeometry_of_fits (buffers : BatchBuffers) {s : Staging}
    (hvertices : s.vertexCount ≤ buffers.capacity.elements .positions)
    (hindices : s.indices.length ≤ buffers.capacity.elements .indices) :
    buffers.uploadGeometry s = ⟨.ok (), s.writes, buffers.apply s.writes⟩ := by
  rw [uploadGeometry, Capacity.uploadGeometry_of_fits hvertices hindices]
  rfl

theorem uploadDraws_of_fits (buffers : BatchBuffers) (h : b.Fits d buffers.capacity.elements) :
    buffers.uploadDraws d =
      ⟨.ok (), d.writes,
        { capacity := { buffers.capacity with drawCount := d.commands.length }
          memory := buffers.memory.writeAll d.writes }⟩ := by
  rw [uploadDraws, Capacity.uploadDraws_of_fits h]
  rfl

theorem markClean_of_not_isDirty (h : b.isDirty = false) : b.markClean = b := by
  rw [markClean, ← h]

/-- A batch that there is room for is written, and clean from then on. -/
theorem build_of_fits (hb : b.staging.IsAligned) (h : b.Fits d buffers.capacity.elements) :
    buffers.build b d =
      (⟨.ok (), b.writes d,
        { capacity := { buffers.capacity with drawCount := d.commands.length }
          memory := buffers.memory.writeAll (b.writes d) }⟩, b.markClean) := by
  unfold build
  rw [Capacity.prepare_eq hb, Capacity.checkBatch_eq_ok_iff.mpr h, Batch.writes]
  cases hdirty : b.isDirty with
  | true =>
      -- by the time the draws are checked the geometry is written, which no capacity depends on
      let before : BatchBuffers := ⟨buffers.capacity, buffers.memory⟩
      have hgeometry := before.uploadGeometry_of_fits (h.vertices hdirty) (h.indices hdirty)
      have hdraws := (before.apply b.staging.writes).uploadDraws_of_fits h
      dsimp only
      rw [hgeometry, if_pos rfl, BufferMemory.writeAll_append]
      simp only [Uploaded.andThen, hdraws]
      rfl
  | false =>
      rw [markClean_of_not_isDirty hdirty]
      exact congrArg (·, b) (buffers.uploadDraws_of_fits h)

/-- A batch that the first look refuses is left alone, and nothing is drawn any more. -/
theorem build_of_checkBatch_eq_error (hb : b.staging.IsAligned) {fault : Fault}
    (h : buffers.capacity.checkBatch b d = .error fault) :
    buffers.build b d =
      (⟨.error fault, [], { buffers with capacity := buffers.capacity.disableDraws }⟩, b) := by
  unfold build
  rw [Capacity.prepare_eq hb, h]

theorem build_of_not_fits (hb : b.staging.IsAligned) (h : ¬b.Fits d buffers.capacity.elements) :
    ∃ fault, buffers.build b d =
      (⟨.error fault, [], { buffers with capacity := buffers.capacity.disableDraws }⟩, b) := by
  obtain ⟨fault, hfault⟩ :=
    Capacity.exists_fault (mt Capacity.checkBatch_eq_ok_iff.mp h)
  exact ⟨fault, build_of_checkBatch_eq_error hb hfault⟩

theorem uploadPalette_of_fits (buffers : BatchBuffers) {palette : List (Mat4 Float32)}
    (h : palette.length ≤ buffers.capacity.elements .palette) :
    buffers.uploadPalette palette =
      ⟨.ok (), writeRecords .palette palette, buffers.apply (writeRecords .palette palette)⟩ := by
  rw [uploadPalette, Capacity.uploadPalette, Capacity.checkPalette_eq_ok_iff.mpr h]
  rfl

theorem uploadLights_of_fits (buffers : BatchBuffers) {lights : List LightRecord}
    (h : lights.length ≤ buffers.capacity.elements .lights) :
    buffers.uploadLights lights =
      ⟨.ok (), writeRecords .lights lights, buffers.apply (writeRecords .lights lights)⟩ := by
  rw [uploadLights, Capacity.uploadLights, Capacity.checkLights_eq_ok_iff.mpr h]
  rfl

end BatchBuffers

/-- There is room for a whole frame: a batch with its draws, joint matrices and lights. -/
structure FrameFits (room : BufferRole → Nat) (b : Batch) (d : Draws)
    (palette : List (Mat4 Float32)) (lights : List LightRecord) : Prop where
  batch : b.Fits d room
  palette : palette.length ≤ room .palette
  lights : lights.length ≤ room .lights

/-- The writes for a whole frame, but for the uniforms. -/
def frameWrites (b : Batch) (d : Draws) (palette : List (Mat4 Float32))
    (lights : List LightRecord) : List BufferWrite :=
  b.writes d ++ (writeRecords .palette palette ++ writeRecords .lights lights)

namespace Renderer

variable {b : Batch} {d : Draws} {palette : List (Mat4 Float32)} {lights : List LightRecord}

theorem checkRest_eq_ok_iff {c : Capacity} :
    (c.checkPalette palette >>= fun _ => c.checkLights lights) = .ok () ↔
      palette.length ≤ c.elements .palette ∧ lights.length ≤ c.elements .lights := by
  rw [Capacity.seq_eq_ok_iff, Capacity.checkPalette_eq_ok_iff, Capacity.checkLights_eq_ok_iff]

/-- A frame that there is room for is written as a whole. -/
theorem uploadBuffers_of_fits (buffers : BatchBuffers) (hb : b.staging.IsAligned)
    (h : FrameFits buffers.capacity.elements b d palette lights) :
    uploadBuffers buffers b d palette lights =
      (⟨.ok (), frameWrites b d palette lights,
        { capacity := { buffers.capacity with drawCount := d.commands.length }
          memory := buffers.memory.writeAll (frameWrites b d palette lights) }⟩, b.markClean) := by
  have hbuild := BatchBuffers.build_of_fits hb h.batch
  -- the number of draws is set by now, which no capacity depends on
  have hpalette := BatchBuffers.uploadPalette_of_fits
    { capacity := { buffers.capacity with drawCount := d.commands.length }
      memory := buffers.memory.writeAll (b.writes d) } h.palette
  have hlights := BatchBuffers.uploadLights_of_fits
    { capacity := { buffers.capacity with drawCount := d.commands.length }
      memory := (buffers.memory.writeAll (b.writes d)).writeAll (writeRecords .palette palette) }
    h.lights
  unfold uploadBuffers
  rw [checkRest_eq_ok_iff.mpr ⟨h.palette, h.lights⟩, frameWrites, BufferMemory.writeAll_append,
    BufferMemory.writeAll_append]
  simp only [hbuild, Uploaded.andThen, hpalette, BatchBuffers.apply, hlights, List.append_assoc]

theorem takes_frameWrites {c : Capacity} (hb : b.staging.IsAligned)
    (h : FrameFits c.elements b d palette lights) :
    ∀ w ∈ frameWrites b d palette lights, c.Takes w := by
  intro w hw
  rcases List.mem_append.mp hw with hw | hw
  · exact Capacity.takes_writes_batch hb h.batch w hw
  · rcases List.mem_append.mp hw with hw | hw
    · exact Capacity.takes_writeRecords rfl h.palette w hw
    · exact Capacity.takes_writeRecords rfl h.lights w hw

/-- A frame that there is no room for is not written at all. -/
theorem uploadBuffers_of_not_fits (buffers : BatchBuffers) (hb : b.staging.IsAligned)
    (h : ¬FrameFits buffers.capacity.elements b d palette lights) :
    ∃ fault, uploadBuffers buffers b d palette lights =
      (⟨.error fault, [], { buffers with capacity := buffers.capacity.disableDraws }⟩, b) := by
  unfold uploadBuffers
  by_cases hrest : palette.length ≤ buffers.capacity.elements .palette ∧
      lights.length ≤ buffers.capacity.elements .lights
  · -- then it is the batch that does not fit
    have hbatch : ¬b.Fits d buffers.capacity.elements := fun hbatch =>
      h ⟨hbatch, hrest.1, hrest.2⟩
    obtain ⟨fault, hfault⟩ := BatchBuffers.build_of_not_fits hb hbatch
    refine ⟨fault, ?_⟩
    rw [checkRest_eq_ok_iff.mpr hrest]
    simp only [hfault, Uploaded.andThen]
  · obtain ⟨fault, hfault⟩ := Capacity.exists_fault (mt checkRest_eq_ok_iff.mp hrest)
    refine ⟨fault, ?_⟩
    rw [hfault]

/-- Where joint matrices and lights fit, the first check of the batch decides. -/
theorem uploadBuffers_result (buffers : BatchBuffers) (hb : b.staging.IsAligned)
    (hpalette : palette.length ≤ buffers.capacity.elements .palette)
    (hlights : lights.length ≤ buffers.capacity.elements .lights) :
    (uploadBuffers buffers b d palette lights).1.result = buffers.capacity.checkBatch b d := by
  cases hcheck : buffers.capacity.checkBatch b d with
  | ok _ =>
      have hbatch := Capacity.checkBatch_eq_ok_iff.mp hcheck
      rw [uploadBuffers_of_fits buffers hb ⟨hbatch, hpalette, hlights⟩]
  | error fault =>
      unfold uploadBuffers
      rw [checkRest_eq_ok_iff.mpr ⟨hpalette, hlights⟩]
      simp only [BatchBuffers.build_of_checkBatch_eq_error hb hcheck, Uploaded.andThen]

/-- An upload of a frame that there is room for writes the uniforms and the whole frame. -/
theorem upload_eq_of_fits (r : Renderer) (reader : PictureReader) (library : TextureLibrary)
    (uniforms : FrameUniforms) (hb : b.staging.IsAligned)
    (h : FrameFits r.buffers.capacity.elements b d palette lights) :
    let ws := Capacity.uploadUniforms uniforms ++ frameWrites b d palette lights
    let flushed := (r.textures.flush reader library).value
    (r.upload reader b d library uniforms palette lights).value =
      (⟨.ok (), flushed.1, ws⟩,
        { r with
          buffers :=
            { capacity := { r.buffers.capacity with drawCount := d.commands.length }
              memory := r.buffers.memory.writeAll ws }
          textures := flushed.2.1 },
        b.markClean, flushed.2.2) := by
  have hbuffers :=
    uploadBuffers_of_fits (r.buffers.apply (Capacity.uploadUniforms uniforms)) hb h
  dsimp only
  rw [BufferMemory.writeAll_append]
  simp only [upload, Logged.bind_value, hbuffers]
  rfl

/-- What an upload of a frame that there is room for comes to. -/
theorem upload_of_fits (r : Renderer) (reader : PictureReader) (library : TextureLibrary)
    (uniforms : FrameUniforms) (hb : b.staging.IsAligned)
    (h : FrameFits r.buffers.capacity.elements b d palette lights) :
    ∃ ws layers textures library',
      (r.upload reader b d library uniforms palette lights).value =
        (⟨.ok (), layers, Capacity.uploadUniforms uniforms ++ ws⟩,
          { r with
            buffers :=
              { capacity := { r.buffers.capacity with drawCount := d.commands.length }
                memory := r.buffers.memory.writeAll (Capacity.uploadUniforms uniforms ++ ws) }
            textures },
          b.markClean, library') ∧
      ∀ w ∈ ws, r.buffers.capacity.Takes w :=
  ⟨_, _, _, _, upload_eq_of_fits r reader library uniforms hb h, takes_frameWrites hb h⟩

/-- What an upload of a frame that there is no room for comes to. -/
theorem upload_of_not_fits (r : Renderer) (reader : PictureReader) (library : TextureLibrary)
    (uniforms : FrameUniforms) (hb : b.staging.IsAligned)
    (h : ¬FrameFits r.buffers.capacity.elements b d palette lights) :
    ∃ fault layers textures library',
      (r.upload reader b d library uniforms palette lights).value =
        (⟨.error fault, layers, Capacity.uploadUniforms uniforms⟩,
          { r with
            buffers :=
              { capacity := r.buffers.capacity.disableDraws
                memory := r.buffers.memory.writeAll (Capacity.uploadUniforms uniforms) }
            textures },
          b, library') := by
  obtain ⟨fault, hfault⟩ :=
    uploadBuffers_of_not_fits (r.buffers.apply (Capacity.uploadUniforms uniforms)) hb h
  refine ⟨fault, (r.textures.flush reader library).value.1,
    (r.textures.flush reader library).value.2.1, (r.textures.flush reader library).value.2.2, ?_⟩
  simp only [upload, Logged.bind_value, hfault, List.append_nil]
  rfl

end Renderer

/-! ### How renderers and batches come about -/

/-- Batches that come about by cleaning, adding models and uploads to any renderer. -/
inductive Batch.Reached : Batch → Prop
  | empty (maxUnits maxJoints : Nat) : Reached (.empty maxUnits maxJoints)
  | cleaned {b : Batch} (hb : Reached b) : Reached b.cleanUp
  | called {b : Batch} (hb : Reached b) (c : Call) : Reached (b.after c)
  | uploaded {b : Batch} (hb : Reached b) (r : Renderer) (reader : PictureReader) (d : Draws)
      (library : TextureLibrary) (uniforms : FrameUniforms) (palette : List (Mat4 Float32))
      (lights : List LightRecord) :
      Reached (r.upload reader b d library uniforms palette lights).value.2.2.1

/-- Renderers of a configuration: a new one, and what becomes of it by uploads. -/
inductive Renderer.MadeFor (c : RenderConfig) : Renderer → Prop
  | new (multiDraw : Bool) : MadeFor c (Renderer.ofConfig c multiDraw).value
  | uploaded {r : Renderer} (hr : MadeFor c r) {b : Batch} (hb : b.Reached) (reader : PictureReader)
      (d : Draws) (library : TextureLibrary) (uniforms : FrameUniforms)
      (palette : List (Mat4 Float32)) (lights : List LightRecord) :
      MadeFor c (r.upload reader b d library uniforms palette lights).value.2.1

/-- An upload at most cleans the batch. -/
theorem Batch.upload_eq_or {b : Batch} (hb : b.staging.IsAligned) (r : Renderer)
    (reader : PictureReader) (d : Draws) (library : TextureLibrary) (uniforms : FrameUniforms)
    (palette : List (Mat4 Float32)) (lights : List LightRecord) :
    (r.upload reader b d library uniforms palette lights).value.2.2.1 = b ∨
      (r.upload reader b d library uniforms palette lights).value.2.2.1 = b.markClean := by
  by_cases h : FrameFits r.buffers.capacity.elements b d palette lights
  · obtain ⟨ws, layers, textures, library', hupload, -⟩ :=
      Renderer.upload_of_fits r reader library uniforms hb h
    exact .inr (by rw [hupload])
  · obtain ⟨fault, layers, textures, library', hupload⟩ :=
      Renderer.upload_of_not_fits r reader library uniforms hb h
    exact .inl (by rw [hupload])

theorem Batch.Reached.sound {b : Batch} (hb : b.Reached) : b.Sound fun _ _ => True := by
  induction hb with
  | empty maxUnits maxJoints =>
      rw [← cleanUp_empty]
      exact sound_cleanUp _ _
  | cleaned _ _ => exact sound_cleanUp _ _
  | called _ c ih => exact ih.after fun _ _ _ => trivial
  | @uploaded b _ r reader d library uniforms palette lights ih =>
      -- whether it was taken or not, an upload changes no geometry
      rcases b.upload_eq_or ih.aligned r reader d library uniforms palette lights with h | h
      · rw [h]
        exact ih
      · rw [h]
        exact ih.setDirty false

/-- A renderer's capacity is that of its configuration, but for the number of draws. -/
theorem Renderer.MadeFor.capacity_eq {c : RenderConfig} {r : Renderer} (hr : r.MadeFor c) :
    ∃ n, r.buffers.capacity = { Capacity.ofConfig c with drawCount := n } := by
  induction hr with
  | new multiDraw =>
      -- whether commands are recorded one by one is a matter of the log only
      cases multiDraw with
      | false => exact ⟨0, rfl⟩
      | true => exact ⟨0, rfl⟩
  | @uploaded r _ b hb reader d library uniforms palette lights ih =>
      obtain ⟨n, hn⟩ := ih
      by_cases h : FrameFits r.buffers.capacity.elements b d palette lights
      · obtain ⟨ws, layers, textures, library', hupload, -⟩ :=
          Renderer.upload_of_fits r reader library uniforms hb.sound.aligned h
        refine ⟨d.commands.length, ?_⟩
        rw [hupload, hn]
      · obtain ⟨fault, layers, textures, library', hupload⟩ :=
          Renderer.upload_of_not_fits r reader library uniforms hb.sound.aligned h
        refine ⟨0, ?_⟩
        rw [hupload, hn]
        rfl

/-- Where joint matrices and lights pass their checks, an upload is refused for the batch or not at
all. -/
theorem Renderer.MadeFor.upload_result {c : RenderConfig} {r : Renderer} (hr : r.MadeFor c)
    {b : Batch} (hb : b.staging.IsAligned) (reader : PictureReader) (d : Draws)
    (library : TextureLibrary) (uniforms : FrameUniforms) {palette : List (Mat4 Float32)}
    {lights : List LightRecord} (hpalette : (Capacity.ofConfig c).checkPalette palette = .ok ())
    (hlights : (Capacity.ofConfig c).checkLights lights = .ok ()) :
    (r.upload reader b d library uniforms palette lights).value.1.result =
      (Capacity.ofConfig c).checkBatch b d := by
  obtain ⟨n, hn⟩ := hr.capacity_eq
  have hcapacity : (r.buffers.apply (Capacity.uploadUniforms uniforms)).capacity =
      { Capacity.ofConfig c with drawCount := n } := hn
  -- the check does not ask how many draws there are
  have hcheck : (r.buffers.apply (Capacity.uploadUniforms uniforms)).capacity.checkBatch b d =
      (Capacity.ofConfig c).checkBatch b d := by
    rw [hcapacity]
    rfl
  rw [← hcheck]
  refine Renderer.uploadBuffers_result _ hb ?_ ?_
  · rw [hcapacity]
    exact Capacity.checkPalette_eq_ok_iff.mp hpalette
  · rw [hcapacity]
    exact Capacity.checkLights_eq_ok_iff.mp hlights

/-! ### Room -/

/-- How many elements of each kind a configuration leaves room for. The record that ends the
lights has a place of its own. -/
def RenderConfig.room (c : RenderConfig) : BufferRole → Nat
  | .positions | .normals | .texcoords | .joints | .weights => c.limits.vertices.toNat
  | .indices => c.limits.indices.toNat
  | .instances => c.limits.instances.toNat
  | .materials => max c.maxTextureUnits.toNat 1
  | .palette => c.limits.paletteMatrices.toNat
  | .lights => c.limits.lights.toNat + 1
  | .commands => c.limits.draws.toNat
  | .uniforms => 1

/-- Unless the number of lights is the largest of its width, the buffers have that room. -/
theorem elements_ofConfig {c : RenderConfig}
    (hlights : c.limits.lights.toNat < RenderConfig.largest32) :
    (Capacity.ofConfig c).elements = c.room := by
  funext role
  cases role with
  | lights =>
      -- One more for the ending record, which wraps only at the largest number.
      show (c.limits.lights + 1).toNat = c.limits.lights.toNat + 1
      rw [UInt32.toNat_add]
      exact Nat.mod_eq_of_lt (Nat.succ_lt_succ hlights)
  | materials =>
      show (if c.maxTextureUnits ≤ 1 then 1 else c.maxTextureUnits).toNat =
        max c.maxTextureUnits.toNat 1
      split
      case isTrue h => exact (Nat.max_eq_right (UInt32.le_iff_toNat_le.mp h)).symm
      case isFalse h =>
        rw [UInt32.le_iff_toNat_le, not_le] at h
        exact (Nat.max_eq_left h.le).symm
  | _ => rfl

/-- An upload that is taken as a whole or refused as a whole: its report, and what becomes of the
renderer `r` and the batch `b`. -/
structure UploadReport.AllOrNothing (report : UploadReport) (c : RenderConfig) (r r' : Renderer)
    (b b' : Batch) (d : Draws) (palette : List (Mat4 Float32)) (lights : List LightRecord) :
    Prop where
  accepted_iff : report.result = .ok () ↔ FrameFits c.room b d palette lights
  accepted : report.result = .ok () →
    b' = b.markClean ∧ r'.buffers.capacity.drawCount = d.commands.length
  within : ∀ w ∈ report.writes, w.data.length ≤ (Capacity.ofConfig c).byteSize w.role
  refused : report.result ≠ .ok () →
    r'.buffers.capacity.drawCount = 0 ∧ r'.render = [] ∧ b' = b ∧
      (∀ w ∈ report.writes, w.role = .uniforms) ∧
      ∀ role, role ≠ .uniforms → r'.buffers.memory role = r.buffers.memory role

theorem takes_uploadUniforms (c : Capacity) (uniforms : FrameUniforms) :
    ∀ w ∈ Capacity.uploadUniforms uniforms, c.Takes w := by
  intro w hw
  rw [List.mem_singleton.mp hw]
  unfold Capacity.Takes Capacity.byteSize Capacity.elements BufferRole.elementSize
  rw [DeviceRecord.Sized.length_encode, Nat.max_self, Nat.one_mul]

/-- Whatever a renderer and a batch went through, an upload is taken exactly when there is room for
all of it. No write goes past the end of its buffer. An upload that is refused writes nothing but
uniforms, keeps the batch as it is and leaves nothing to draw. -/
theorem upload_all_or_nothing {c : RenderConfig}
    (hlights : c.limits.lights.toNat < RenderConfig.largest32) {r : Renderer} (hr : r.MadeFor c)
    {b : Batch} (hb : b.Reached) (reader : PictureReader) (d : Draws) (library : TextureLibrary)
    (uniforms : FrameUniforms) (palette : List (Mat4 Float32)) (lights : List LightRecord) :
    let after := (r.upload reader b d library uniforms palette lights).value
    after.1.AllOrNothing c r after.2.1 b after.2.2.1 d palette lights := by
  intro after
  obtain ⟨n, hn⟩ := hr.capacity_eq
  have hroom : r.buffers.capacity.elements = c.room := by
    rw [hn, ← elements_ofConfig hlights]
    rfl
  have hsize : ∀ w, r.buffers.capacity.Takes w →
      w.data.length ≤ (Capacity.ofConfig c).byteSize w.role := by
    intro w hw
    rw [hn] at hw
    exact hw
  by_cases h : FrameFits r.buffers.capacity.elements b d palette lights
  · -- there is room: uniforms and the whole frame are written
    obtain ⟨ws, layers, textures, library', hupload, htakes⟩ :=
      Renderer.upload_of_fits r reader library uniforms hb.sound.aligned h
    have hafter : after = _ := hupload
    rw [hafter]
    rw [hroom] at h
    refine ⟨⟨fun _ => h, fun _ => rfl⟩, fun _ => ⟨rfl, rfl⟩, ?_, fun hnot => absurd rfl hnot⟩
    intro w hw
    rcases List.mem_append.mp hw with hw | hw
    · exact hsize w (takes_uploadUniforms _ uniforms w hw)
    · exact hsize w (htakes w hw)
  · -- there is none: only uniforms are written
    obtain ⟨fault, layers, textures, library', hupload⟩ :=
      Renderer.upload_of_not_fits r reader library uniforms hb.sound.aligned h
    have hafter : after = _ := hupload
    rw [hafter]
    rw [hroom] at h
    refine ⟨⟨?_, fun hfits => absurd hfits h⟩, ?_, ?_, fun _ => ⟨rfl, rfl, rfl, ?_, ?_⟩⟩
    · intro hok
      cases hok
    · intro hok
      cases hok
    · intro w hw
      exact hsize w (takes_uploadUniforms _ uniforms w hw)
    · intro w hw
      rw [List.mem_singleton.mp hw]
    · intro role hrole
      exact BufferMemory.write_of_ne hrole

/-- The first frame of a renderer that is made with the defaults, with one triangle in it. -/
theorem first_upload_all_or_nothing :
    let c : RenderConfig := {}
    let r := (Renderer.ofConfig c true).value
    let b := (Batch.empty 16 20).after (plainCall [0] [3])
    let after := (r.upload .empty b (.ofBatch b) (.empty 16 256)
      (.new .identity .identity .zero 20) [] [.ending]).value
    c.limits.lights.toNat < RenderConfig.largest32 ∧ r.MadeFor c ∧ b.Reached ∧
      after.1.AllOrNothing c r after.2.1 b after.2.2.1 (.ofBatch b) [] [.ending] := by
  intro c r b after
  have hlights : c.limits.lights.toNat < RenderConfig.largest32 := by decide
  have hr : r.MadeFor c := .new true
  have hb : b.Reached := .called (.empty 16 20) (plainCall [0] [3])
  exact ⟨hlights, hr, hb, upload_all_or_nothing hlights hr hb .empty _ _ _ [] [.ending]⟩

end SceneBatch
