import SceneBatch.Frame.Basic
import SceneBatch.Proofs.Device.Upload

/-!
# The contents of buffers

What buffers are to hold of a frame (`Frame.bytes`), and how an upload brings it there. All writes
for a frame carry what their buffers are to hold (`Frame.data_of_mem_writes`), and no buffer is left
out but those of geometry that the device has already (`Frame.prefix_or_written`).
-/

namespace SceneBatch

open Batch

/-! ### What buffers are to hold -/

/-- The bytes of staging arrays in the buffers that they go to. -/
def Staging.bytes (s : Staging) : BufferRole → Bytes
  | .positions => DeviceRecord.encodeAll s.positions
  | .normals => DeviceRecord.encodeAll s.normals
  | .texcoords => DeviceRecord.encodeAll s.texcoords
  | .joints => DeviceRecord.encodeAll s.joints
  | .weights => DeviceRecord.encodeAll s.weights
  | .indices => DeviceRecord.encodeAll s.indices
  | _ => []

/-- The bytes of a frame in the buffers that they go to. -/
def Frame.bytes (f : Frame) (uniforms : FrameUniforms) : BufferRole → Bytes
  | .instances => DeviceRecord.encodeAll f.draws.instances
  | .materials => DeviceRecord.encodeAll f.draws.materials
  | .commands => DeviceRecord.encodeAll f.draws.commands
  | .palette => DeviceRecord.encodeAll f.palette
  | .lights => DeviceRecord.encodeAll f.lights
  | .uniforms => DeviceRecord.encode uniforms
  | role => f.batch.staging.bytes role

variable {ρ : Type} [DeviceRecord ρ]

theorem mem_writeRecords {role : BufferRole} {rs : List ρ} {w : BufferWrite} :
    w ∈ writeRecords role rs ↔ rs ≠ [] ∧ w = ⟨role, DeviceRecord.encodeAll rs⟩ := by
  rw [writeRecords]
  cases rs with
  | nil => simp
  | cons r rs => simp

/-- Records are on the device, or among the writes if their writes are. -/
theorem prefix_or_written {role : BufferRole} {rs : List ρ} {ws : List BufferWrite}
    (h : ∀ w ∈ writeRecords role rs, w ∈ ws) (held : Bytes) :
    DeviceRecord.encodeAll rs <+: held ∨ ∃ w ∈ ws, w.role = role := by
  by_cases hrs : rs = []
  · rw [hrs]
    exact .inl List.nil_prefix
  · exact .inr ⟨_, h _ (mem_writeRecords.mpr ⟨hrs, rfl⟩), rfl⟩

/-! ### Writes of a frame -/

/-- The buffers that staging arrays go to. -/
def BufferRole.geometry : List BufferRole :=
  [positions, normals, texcoords, joints, weights, indices]

namespace Staging

variable {s : Staging} {w : BufferWrite}

theorem data_of_mem_writes (hw : w ∈ s.writes) :
    w.role ∈ BufferRole.geometry ∧ w.data = s.bytes w.role := by
  unfold writes at hw
  split at hw
  · cases hw
  · rcases List.mem_append.mp hw with hw | hw
    · simp only [List.mem_cons, List.not_mem_nil, or_false] at hw
      rcases hw with rfl | rfl | rfl | rfl | rfl <;> exact ⟨by simp [BufferRole.geometry], rfl⟩
    · obtain ⟨-, rfl⟩ := mem_writeRecords.mp hw
      exact ⟨by simp [BufferRole.geometry], rfl⟩

theorem eq_empty (hs : s.IsAligned) (hnone : s.vertexCount = 0) (hindices : s.indices = []) :
    s = {} := by
  have hnormals := hs.normals.trans hnone
  have htexcoords := hs.texcoords.trans hnone
  have hjoints := hs.joints.trans hnone
  have hweights := hs.weights.trans hnone
  rw [vertexCount] at hnone
  cases s
  simp only [List.length_eq_zero_iff] at hnone hnormals htexcoords hjoints hweights hindices
  subst hnone hnormals htexcoords hjoints hweights hindices
  rfl

theorem bytes_empty (role : BufferRole) : ({} : Staging).bytes role = [] := by
  cases role <;> rfl

/-- All staging arrays are written, unless they are empty. -/
theorem prefix_or_written (hs : s.IsAligned) (hindices : s.vertexCount = 0 → s.indices = [])
    (role : BufferRole) (held : Bytes) :
    s.bytes role <+: held ∨ ∃ w ∈ s.writes, w.role = role := by
  by_cases hnone : s.vertexCount = 0
  · rw [eq_empty hs hnone (hindices hnone), bytes_empty]
    exact .inl List.nil_prefix
  · rw [writes, if_neg hnone]
    cases role with
    | positions | normals | texcoords | joints | weights => simp
    | indices =>
        exact SceneBatch.prefix_or_written (fun w hw => List.mem_append_right _ hw) held
    | _ => exact .inl List.nil_prefix

end Staging

namespace Frame

variable {f : Frame} {uniforms : FrameUniforms}

/-- The writes for a frame and its uniforms. -/
def writes (f : Frame) (uniforms : FrameUniforms) : List BufferWrite :=
  Capacity.uploadUniforms uniforms ++ frameWrites f.batch f.draws f.palette f.lights

/-- Geometry is written as staging arrays, but not to other buffers. -/
theorem prefix_bytes (f : Frame) (uniforms : FrameUniforms) (role : BufferRole) :
    f.batch.staging.bytes role <+: f.bytes uniforms role := by
  cases role with
  | positions | normals | texcoords | joints | weights | indices => exact List.prefix_rfl
  | _ => exact List.nil_prefix

theorem bytes_of_geometry {role : BufferRole} (h : role ∈ BufferRole.geometry) :
    f.bytes uniforms role = f.batch.staging.bytes role := by
  simp only [BufferRole.geometry, List.mem_cons, List.not_mem_nil, or_false] at h
  rcases h with rfl | rfl | rfl | rfl | rfl | rfl <;> rfl

theorem data_of_mem_writes {w : BufferWrite} (hw : w ∈ f.writes uniforms) :
    w.data = f.bytes uniforms w.role := by
  have hrecords {ρ : Type} [DeviceRecord ρ] {role : BufferRole} {rs : List ρ}
      (hw : w ∈ writeRecords role rs)
      (hbytes : f.bytes uniforms role = DeviceRecord.encodeAll rs) :
      w.data = f.bytes uniforms w.role := by
    obtain ⟨-, rfl⟩ := mem_writeRecords.mp hw
    exact hbytes.symm
  rcases List.mem_append.mp hw with hw | hw
  · rw [List.mem_singleton.mp hw]
    rfl
  -- behind the uniforms come the writes of the batch, the palette and the lights
  rcases List.mem_append.mp hw with hw | hw
  · rcases List.mem_append.mp hw with hw | hw
    · split at hw
      · obtain ⟨hrole, hdata⟩ := Staging.data_of_mem_writes hw
        rw [hdata, bytes_of_geometry hrole]
      · cases hw
    · rcases List.mem_append.mp hw with hw | hw
      · rcases List.mem_append.mp hw with hw | hw
        · exact hrecords hw rfl
        · exact hrecords hw rfl
      · exact hrecords hw rfl
  · rcases List.mem_append.mp hw with hw | hw
    · exact hrecords hw rfl
    · exact hrecords hw rfl

/-- What a buffer is to hold of a frame is written to it, unless the device has it. -/
theorem prefix_or_written (hb : f.batch.Sound fun _ _ => True) {memory : BufferMemory}
    (hclean : f.batch.isDirty = false → ∀ role, f.batch.staging.bytes role <+: memory role)
    (role : BufferRole) :
    f.bytes uniforms role <+: memory role ∨ ∃ w ∈ f.writes uniforms, w.role = role := by
  have hgeometry : f.batch.staging.bytes role <+: memory role ∨
      ∃ w ∈ f.writes uniforms, w.role = role := by
    cases hdirty : f.batch.isDirty with
    | false => exact .inl (hclean hdirty role)
    | true =>
        rcases f.batch.staging.prefix_or_written hb.aligned hb.indices_eq_nil role (memory role)
          with hheld | ⟨w, hw, hrole⟩
        · exact .inl hheld
        · refine .inr ⟨w, ?_, hrole⟩
          simp [writes, frameWrites, Batch.writes, hdirty, hw]
  -- which of the frame's writes goes to the buffer
  cases role with
  | positions | normals | texcoords | joints | weights | indices => exact hgeometry
  | instances | materials | commands =>
      apply SceneBatch.prefix_or_written
      intro w hw
      simp [writes, frameWrites, Batch.writes, Draws.writes, hw]
  | palette | lights =>
      apply SceneBatch.prefix_or_written
      intro w hw
      simp [writes, frameWrites, hw]
  | uniforms => exact .inr ⟨_, List.mem_append_left _ List.mem_cons_self, rfl⟩

end Frame

end SceneBatch
