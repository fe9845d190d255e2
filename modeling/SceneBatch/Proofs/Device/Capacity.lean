import SceneBatch.Device.Upload
import SceneBatch.Proofs.Batch.Staging
import SceneBatch.Proofs.Device.Record

/-!
# What fits

An upload checks the sizes of what it is to write in several places, and again where it writes. All
these checks together are one condition (`Fits`) on the room that the buffers have. It is what the
first look at a batch finds out, before anything is written (`prepare_eq`, `checkBatch_eq_ok_iff`).
Where it holds, no later check fails (`uploadGeometry_of_fits`, `uploadDraws_of_fits`) and no write
goes past the end of its buffer (`takes_writes_batch`).
-/

namespace SceneBatch

/-- There is room for the draws of a batch, and for its geometry if that has to be written. -/
structure Batch.Fits (b : Batch) (d : Draws) (room : BufferRole → Nat) : Prop where
  commands : d.commands.length ≤ room .commands
  instances : d.instances.length ≤ room .instances
  materials : d.materials.length ≤ room .materials
  vertices : b.isDirty = true → b.staging.vertexCount ≤ room .positions
  indices : b.isDirty = true → b.staging.indices.length ≤ room .indices

/-! ### What is written -/

/-- The writes for staging arrays; there are none without vertices. -/
def Staging.writes (s : Staging) : List BufferWrite :=
  if s.vertexCount = 0 then []
  else
    [⟨.positions, DeviceRecord.encodeAll s.positions⟩,
      ⟨.normals, DeviceRecord.encodeAll s.normals⟩,
      ⟨.texcoords, DeviceRecord.encodeAll s.texcoords⟩,
      ⟨.joints, DeviceRecord.encodeAll s.joints⟩,
      ⟨.weights, DeviceRecord.encodeAll s.weights⟩] ++ writeRecords .indices s.indices

/-- The writes for draws. -/
def Draws.writes (d : Draws) : List BufferWrite :=
  writeRecords .instances d.instances ++ writeRecords .materials d.materials ++
    writeRecords .commands d.commands

/-- The writes for a batch with its draws: geometry is left out that the device has. -/
def Batch.writes (b : Batch) (d : Draws) : List BufferWrite :=
  (if b.isDirty then b.staging.writes else []) ++ d.writes

/-! ### Padding -/

namespace Staging

theorem fit_of_length {α : Type} {count : Nat} (filler : α) {xs : List α}
    (h : xs.length = count) : fit count filler xs = xs := by
  rw [fit, h, Nat.sub_self, List.replicate_zero, List.append_nil, ← h, List.take_length]

/-- Arrays that go along with the positions are not padded. -/
theorem pad_of_isAligned {s : Staging} (hs : s.IsAligned) : s.pad = s := by
  simp only [pad, fit_of_length _ hs.normals, fit_of_length _ hs.texcoords,
    fit_of_length _ hs.joints, fit_of_length _ hs.weights]

end Staging

namespace Capacity

variable {c : Capacity} {b : Batch} {d : Draws}

/-! ### Checks -/

theorem ensure_eq_ok_iff {buffer : String} {needed : Nat} {capacity : UInt32} :
    ensure buffer needed capacity = .ok () ↔ needed ≤ capacity.toNat := by
  unfold ensure
  split
  · next hless =>
    constructor
    · intro h
      cases h
    · intro h
      omega
  · next hless =>
    constructor
    · intro _
      omega
    · intro _
      rfl

/-- A refusal tells what is needed and what there is. -/
theorem ensure_eq_error_iff {buffer : String} {needed : Nat} {capacity : UInt32} {fault : Fault} :
    ensure buffer needed capacity = .error fault ↔
      capacity.toNat < needed ∧ fault = .capacityExceeded buffer needed capacity.toNat := by
  unfold ensure
  split
  · next hless =>
    rw [Except.error.injEq, eq_comm]
    exact (and_iff_right hless).symm
  · next hless =>
    constructor
    · intro h
      cases h
    · intro h
      exact absurd h.1 hless

theorem seq_eq_ok_iff {x y : Except Fault Unit} :
    (x >>= fun _ => y) = .ok () ↔ x = .ok () ∧ y = .ok () := by
  cases x with
  | error fault =>
      constructor
      · intro h
        cases h
      · rintro ⟨h, -⟩
        cases h
  | ok _ => exact ⟨fun h => ⟨rfl, h⟩, fun h => h.2⟩

/-- A check that does not pass gives a fault. -/
theorem exists_fault {x : Except Fault Unit} (h : x ≠ .ok ()) : ∃ fault, x = .error fault := by
  cases x with
  | error fault => exact ⟨fault, rfl⟩
  | ok _ => exact absurd rfl h

theorem checkGeometry_eq_ok_iff {s : Staging} :
    c.checkGeometry s = .ok () ↔
      s.vertexCount ≤ c.elements .positions ∧ s.indices.length ≤ c.elements .indices := by
  rw [checkGeometry, seq_eq_ok_iff, ensure_eq_ok_iff, ensure_eq_ok_iff]
  rfl

theorem checkDraws_eq_ok_iff :
    c.checkDraws d = .ok () ↔
      d.commands.length ≤ c.elements .commands ∧ d.instances.length ≤ c.elements .instances ∧
        d.materials.length ≤ c.elements .materials := by
  rw [checkDraws, seq_eq_ok_iff, seq_eq_ok_iff, ensure_eq_ok_iff, ensure_eq_ok_iff,
    ensure_eq_ok_iff]
  rfl

theorem checkPalette_eq_ok_iff {palette : List (Mat4 Float32)} :
    c.checkPalette palette = .ok () ↔ palette.length ≤ c.elements .palette :=
  ensure_eq_ok_iff

theorem checkLights_eq_ok_iff {lights : List LightRecord} :
    c.checkLights lights = .ok () ↔ lights.length ≤ c.elements .lights :=
  ensure_eq_ok_iff

/-- The checks of a batch, one after the other. -/
def checkBatch (c : Capacity) (b : Batch) (d : Draws) : Except Fault Unit := do
  if b.isDirty then c.checkGeometry b.staging
  c.checkDraws d

theorem checkBatch_eq_ok_iff : c.checkBatch b d = .ok () ↔ b.Fits d c.elements := by
  -- The geometry is looked at in a dirty batch only.
  have hgeometry : c.checkBatch b d = .ok () ↔
      (b.isDirty = true → c.checkGeometry b.staging = .ok ()) ∧ c.checkDraws d = .ok () := by
    unfold checkBatch
    cases b.isDirty with
    | true => simp [seq_eq_ok_iff]
    | false => simp
  rw [hgeometry, checkGeometry_eq_ok_iff, checkDraws_eq_ok_iff]
  constructor
  · rintro ⟨hstaging, hcommands, hinstances, hmaterials⟩
    exact ⟨hcommands, hinstances, hmaterials, fun h => (hstaging h).1, fun h => (hstaging h).2⟩
  · intro h
    exact ⟨fun hdirty => ⟨h.vertices hdirty, h.indices hdirty⟩, h.commands, h.instances,
      h.materials⟩

/-- A batch whose arrays go along is prepared by checking it. -/
theorem prepare_eq (hb : b.staging.IsAligned) :
    c.prepare b d =
      match c.checkBatch b d with
      | .error fault => (.error fault, b, c.disableDraws)
      | .ok () => (.ok b.isDirty, b, c) := by
  have hpad : (if b.isDirty then { b with staging := b.staging.pad } else b) = b := by
    rw [Staging.pad_of_isAligned hb]
    exact ite_self b
  unfold prepare
  rw [hpad]
  rfl

/-! ### Writes -/

/-- A write ends within its buffer. -/
def Takes (c : Capacity) (w : BufferWrite) : Prop := w.data.length ≤ c.byteSize w.role

theorem takes_encodeAll {ρ : Type} [DeviceRecord ρ] [DeviceRecord.Sized ρ] {role : BufferRole}
    {rs : List ρ} (hsize : role.elementSize = DeviceRecord.size ρ)
    (hrs : rs.length ≤ c.elements role) : c.Takes ⟨role, DeviceRecord.encodeAll rs⟩ := by
  show (DeviceRecord.encodeAll rs).length ≤ max (c.elements role) 1 * role.elementSize
  rw [DeviceRecord.length_encodeAll, hsize]
  exact Nat.mul_le_mul_right _ (hrs.trans (Nat.le_max_left ..))

theorem takes_writeRecords {ρ : Type} [DeviceRecord ρ] [DeviceRecord.Sized ρ] {role : BufferRole}
    {rs : List ρ} (hsize : role.elementSize = DeviceRecord.size ρ)
    (hrs : rs.length ≤ c.elements role) : ∀ w ∈ writeRecords role rs, c.Takes w := by
  intro w hw
  unfold writeRecords at hw
  split at hw
  · cases hw
  · rw [List.mem_singleton.mp hw]
    exact takes_encodeAll hsize hrs

theorem uploadGeometry_of_fits {s : Staging} (hvertices : s.vertexCount ≤ c.elements .positions)
    (hindices : s.indices.length ≤ c.elements .indices) : c.uploadGeometry s = .ok s.writes := by
  rw [uploadGeometry, checkGeometry_eq_ok_iff.mpr ⟨hvertices, hindices⟩, Staging.writes]
  by_cases hnone : s.vertexCount = 0
  · rw [if_pos hnone, if_pos hnone]
    rfl
  · rw [if_neg hnone, if_neg hnone]
    rfl

theorem takes_writes_staging {s : Staging} (hs : s.IsAligned)
    (hvertices : s.vertexCount ≤ c.elements .positions)
    (hindices : s.indices.length ≤ c.elements .indices) : ∀ w ∈ s.writes, c.Takes w := by
  intro w hw
  unfold Staging.writes at hw
  split at hw
  · cases hw
  · rcases List.mem_append.mp hw with hw | hw
    · -- each attribute has one element for each vertex
      have hattribute {α : Type} {xs : List α} (h : xs.length = s.vertexCount) :
          xs.length ≤ c.limits.vertices.toNat := h ▸ hvertices
      simp only [List.mem_cons, List.not_mem_nil, or_false] at hw
      rcases hw with rfl | rfl | rfl | rfl | rfl
      · exact takes_encodeAll rfl (hattribute rfl)
      · exact takes_encodeAll rfl (hattribute hs.normals)
      · exact takes_encodeAll rfl (hattribute hs.texcoords)
      · exact takes_encodeAll rfl (hattribute hs.joints)
      · exact takes_encodeAll rfl (hattribute hs.weights)
    · exact takes_writeRecords rfl hindices w hw

theorem uploadDraws_of_fits (h : b.Fits d c.elements) :
    c.uploadDraws d = .ok (d.writes, { c with drawCount := d.commands.length }) := by
  rw [uploadDraws, checkDraws_eq_ok_iff.mpr ⟨h.commands, h.instances, h.materials⟩]
  rfl

theorem takes_writes_draws (h : b.Fits d c.elements) : ∀ w ∈ d.writes, c.Takes w := by
  intro w hw
  rcases List.mem_append.mp hw with hw | hw
  · rcases List.mem_append.mp hw with hw | hw
    · exact takes_writeRecords rfl h.instances w hw
    · exact takes_writeRecords rfl h.materials w hw
  · exact takes_writeRecords rfl h.commands w hw

theorem takes_writes_batch (hb : b.staging.IsAligned) (h : b.Fits d c.elements) :
    ∀ w ∈ b.writes d, c.Takes w := by
  intro w hw
  rcases List.mem_append.mp hw with hw | hw
  · split at hw
    · next hdirty => exact takes_writes_staging hb (h.vertices hdirty) (h.indices hdirty) w hw
    · cases hw
  · exact takes_writes_draws h w hw

end Capacity

end SceneBatch
