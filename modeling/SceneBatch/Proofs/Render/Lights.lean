import SceneBatch.Proofs.Device.Contents
import SceneBatch.Proofs.Frame.Building

/-!
# The lights that a shader sees

A shader does not know how many lights a frame has: it reads records from the start of the light
buffer and stops at the first one that is of the ending kind. What is behind it, of an earlier frame
with more lights, it must not reach. `Frame.showsLights_build` says that it sees the lights of the
frame that was written last and no others, whatever the buffer held before.
-/

namespace SceneBatch

/-! ### Lists of lights -/

/-- The record of a light of a world. -/
def PlacedLight.record (l : PlacedLight) : LightRecord := .ofLight l.transform l.light

theorem PlacedLight.isEnding_record (l : PlacedLight) : l.record.isEnding = false := by
  -- no kind of light has the number that ends a list
  show (LightRecord.kindNumber l.light.kind == LightRecord.endingKind) = false
  cases l.light.kind
  rfl

theorem collectLights_value (w : World) (limit : Nat) :
    (collectLights w limit).value = (w.lights.take limit).map PlacedLight.record ++ [.ending] := by
  rw [collectLights]
  dsimp only
  split
  · rfl
  · rfl

theorem length_collectLights (w : World) (limit : Nat) :
    (collectLights w limit).value.length = min w.lights.length limit + 1 := by
  rw [collectLights_value, List.length_append, List.length_map, List.length_take,
    List.length_singleton, Nat.min_comm]

/-- The last record of a list ends it, and no other one does. -/
theorem map_isEnding_collectLights (w : World) (limit : Nat) :
    (collectLights w limit).value.map LightRecord.isEnding =
      List.replicate (min w.lights.length limit) false ++ [true] := by
  have hlights : ((w.lights.take limit).map PlacedLight.record).map LightRecord.isEnding =
      List.replicate (min w.lights.length limit) false := by
    rw [List.eq_replicate_iff, List.length_map, List.length_map, List.length_take, Nat.min_comm]
    refine ⟨rfl, fun ending hending => ?_⟩
    rw [List.map_map] at hending
    obtain ⟨l, -, rfl⟩ := List.mem_map.mp hending
    exact l.isEnding_record
  rw [collectLights_value, List.map_append, hlights]
  rfl

/-- A shader stops at the first record that ends a list. -/
theorem shaderLights_append {rs : List LightRecord} (h : ∀ r ∈ rs, r.isEnding = false)
    (rest : List LightRecord) : shaderLights (rs ++ .ending :: rest) = rs := by
  have hlights : ∀ r ∈ rs, (!r.isEnding) = true := fun r hr => by rw [h r hr]; rfl
  rw [shaderLights, List.takeWhile_append_of_pos hlights]
  exact List.append_nil rs

/-! ### Records in memory -/

theorem Bytes.toSingle_ofSingle (x : Float32) : toSingle (ofSingle x) = x := by
  rw [toSingle, ofSingle, toNat_ofNat_four x.toBits.toNat_lt, UInt32.ofNat_toNat,
    Float32.ofBits_toBits]

namespace LightRecord

theorem decode_encode {r : LightRecord} (h : r.kind < UInt32.size) :
    (DeviceRecord.decode (DeviceRecord.encode r) : LightRecord) = r := by
  -- sixteen words of four bytes, each read where it was put
  simp only [DeviceRecord.encode, DeviceRecord.decode, singlesBytes, Vec4.toList, List.append_assoc,
    List.flatMap_cons, List.flatMap_nil, List.cons_append, List.nil_append, List.append_nil,
    vec4At, singleAt, word_append_zero, word_append_succ, word_zero, Bytes.length_ofNat,
    Bytes.length_ofSingle, Bytes.toNat_ofNat_four h, Bytes.toSingle_ofSingle]

end LightRecord

/-- Collected lights are read back as they are, whatever stands behind them. -/
theorem decodeAll_collectLights (w : World) (limit : Nat) (rest : Bytes) :
    DeviceRecord.decodeAll (DeviceRecord.encodeAll (collectLights w limit).value ++ rest) =
      (collectLights w limit).value ++ DeviceRecord.decodeAll rest := by
  -- A kind is a small number, and nothing else in a record is cut when written.
  have hsame : ∀ r ∈ (collectLights w limit).value,
      (DeviceRecord.decode (DeviceRecord.encode r) : LightRecord) = r := by
    intro r hr
    apply LightRecord.decode_encode
    rw [collectLights_value] at hr
    rcases List.mem_append.mp hr with hlight | hending
    · obtain ⟨l, -, rfl⟩ := List.mem_map.mp hlight
      show LightRecord.kindNumber l.light.kind < UInt32.size
      cases l.light.kind
      decide
    · rw [List.mem_singleton.mp hending]
      decide
  rw [DeviceRecord.decodeAll_encodeAll_append (by decide), List.map_congr_left hsame, List.map_id']

/-- A list of lights is written to the start of the light buffer, in front of what is left there. -/
theorem exists_held_lights (w : World) (limit : Nat) (memory : BufferMemory) :
    ∃ stale, memory.writeAll (writeRecords .lights (collectLights w limit).value) .lights =
      DeviceRecord.encodeAll (collectLights w limit).value ++ stale := by
  have hnonempty : (collectLights w limit).value ≠ [] := by
    rw [collectLights_value]
    exact List.append_ne_nil_of_right_ne_nil _ (List.cons_ne_nil _ _)
  let contents : BufferRole → Bytes := fun _ => DeviceRecord.encodeAll (collectLights w limit).value
  have hwritten : contents .lights <+:
      memory.writeAll (writeRecords .lights (collectLights w limit).value) .lights :=
    BufferMemory.prefix_writeAll (fun write hwrite => by rw [(mem_writeRecords.mp hwrite).2])
      (.inr ⟨_, mem_writeRecords.mpr ⟨hnonempty, rfl⟩, rfl⟩)
  obtain ⟨stale, hstale⟩ := hwritten
  exact ⟨stale, hstale.symm⟩

/-! ### Frames -/

/-- A shader sees the lights of a frame, up to the limit, whatever the light buffer held before the
list was written to its start and whatever stands behind what was ever written. -/
theorem Frame.showsLights_build (f : Frame) (w : World) (a : Assets) (memory : BufferMemory)
    (behind : Bytes) :
    let lights := (f.build w a).value.1.lights
    let held := memory.writeAll (writeRecords .lights lights) .lights ++ behind
    let count := min w.lights.length f.maxLights
    lights = (collectLights w f.maxLights).value ∧
      shaderLights (DeviceRecord.decodeAll held) =
        (w.lights.take count).map (fun l => LightRecord.ofLight l.transform l.light) ∧
      lights.length = count + 1 ∧
      lights.map LightRecord.isEnding = List.replicate count false ++ [true] ∧
      (f.build w a).value.1.stats.lights = count := by
  have hlength := length_collectLights w f.maxLights
  refine ⟨rfl, ?_, hlength, map_isEnding_collectLights w f.maxLights, congrArg (· - 1) hlength⟩
  have hkept : ∀ r ∈ (w.lights.take f.maxLights).map PlacedLight.record, r.isEnding = false := by
    intro r hr
    obtain ⟨l, -, rfl⟩ := List.mem_map.mp hr
    exact l.isEnding_record
  have hcount : w.lights.take (min w.lights.length f.maxLights) = w.lights.take f.maxLights := by
    rw [Nat.min_comm, ← List.take_eq_take_min]
  -- Behind the records written lies what an earlier frame left there.
  obtain ⟨stale, hstale⟩ := exists_held_lights w f.maxLights memory
  show shaderLights (DeviceRecord.decodeAll (memory.writeAll
    (writeRecords .lights (collectLights w f.maxLights).value) .lights ++ behind)) = _
  rw [hstale, List.append_assoc, decodeAll_collectLights, collectLights_value, List.append_assoc,
    List.singleton_append, shaderLights_append hkept, hcount]
  rfl

end SceneBatch
