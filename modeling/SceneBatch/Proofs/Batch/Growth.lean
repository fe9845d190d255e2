import SceneBatch.Batch.Draws
import SceneBatch.Proofs.Batch.Staging

/-!
# How a batch grows

A batch changes in two ways only: a decoded node is committed as a new entry (`commit_spec`), and
an instance is pushed onto an entry that is there (`pushInstance_of_place`). Neither takes an entry
away or moves it, so the place of a node is settled as soon as it has one.
-/

namespace SceneBatch

open MeshPart

namespace Batch

/-! ### The places of entries -/

/-- The nodes that have an entry, in the order of the entries. -/
def keys (b : Batch) : List MeshKey := b.entries.map (·.key)

variable {b b' : Batch}

@[simp] theorem length_keys (b : Batch) : b.keys.length = b.entries.length := List.length_map ..

theorem place?_eq_of_keys (b : Batch) (key : MeshKey) :
    b.place? key = ((b.keys.zipIdx.filter fun (k, _) => k = key).getLast?).map Prod.snd := by
  rw [place?, keys, List.zipIdx_map, List.filter_map, List.getLast?_map, Option.map_map]
  rfl

theorem place?_congr (h : b.keys = b'.keys) : b.place? = b'.place? := by
  funext key
  rw [place?_eq_of_keys, place?_eq_of_keys, h]

/-- A new entry is the place of its node and of no other. -/
theorem place?_of_keys_append {k : MeshKey} (h : b'.keys = b.keys ++ [k]) (key : MeshKey) :
    b'.place? key = if k = key then some b.entries.length else b.place? key := by
  rw [place?_eq_of_keys, place?_eq_of_keys, h, List.zipIdx_append, List.filter_append]
  by_cases hk : k = key
  · simp [hk]
  · simp [hk]

theorem place?_eq_none_iff {key : MeshKey} : b.place? key = none ↔ key ∉ b.keys := by
  rw [place?_eq_of_keys, Option.map_eq_none_iff, List.getLast?_eq_none_iff, List.filter_eq_nil_iff]
  constructor
  · intro h hkey
    obtain ⟨i, hi⟩ := List.mem_iff_getElem?.mp hkey
    have := h (key, i) (List.mk_mem_zipIdx_iff_getElem?.mpr hi)
    simp at this
  · rintro h ⟨k, i⟩ hki hk
    have hk : k = key := by simpa using hk
    exact h (hk ▸ List.mem_of_getElem? (List.mk_mem_zipIdx_iff_getElem?.mp hki))

/-- The entry at the place of a node is an entry of that node. -/
theorem exists_of_place? {key : MeshKey} {place : Nat} (h : b.place? key = some place) :
    ∃ e, b.entries[place]? = some e ∧ e.key = key := by
  obtain ⟨⟨e, i⟩, hlast, rfl⟩ := Option.map_eq_some_iff.mp h
  obtain ⟨hmem, hkey⟩ := List.mem_filter.mp (List.mem_of_getLast? hlast)
  exact ⟨e, List.mk_mem_zipIdx_iff_getElem?.mp hmem, by simpa using hkey⟩

/-! ### Committing a node -/

/-- The entry of a decoded node that is staged behind `s`. -/
def stagedEntry (s : Staging) (p : PendingEntry) : MeshEntry where
  key := p.key
  firstIndex := s.indices.length
  indexCount := (mergedIndices 0 p.parts).length
  baseVertex := s.vertexCount
  vertexCount := vertexTotal p.parts
  instanceCount := 0
  isSkinned := p.parts.any (·.influences.isSome)

/-- What `b` becomes when a decoded node is committed: its geometry is staged, and there is one
more entry, without instances. -/
structure Committed (b : Batch) (p : PendingEntry) (b' : Batch) : Prop where
  entries : b'.entries = b.entries ++ [stagedEntry b.staging p]
  staging : b'.staging = b.staging.addParts p.parts
  slots : b.registry.slots.length = b.entries.length →
    ∃ material, b'.registry.slots = b.registry.slots ++ [⟨[], material⟩]
  copies : b'.copies = b.copies + 1
  maxJoints : b'.maxJoints = b.maxJoints

/-- Binding a texture changes no records, and only the entry that it is for. -/
theorem slots_bindMaterial (r : InstanceRegistry) (place : Nat) (texture : String)
    (textures : TextureLibrary) :
    ∃ f : EntryInstances → EntryInstances, (∀ s, f s = ⟨s.records, (f s).material⟩) ∧
      (r.bindMaterial place texture textures).value.2.1.slots = r.slots.modify place f := by
  -- in all cases but one the change is none
  have unchanged : r.slots = r.slots.modify place id := (List.modify_id ..).symm
  rw [InstanceRegistry.bindMaterial]
  split
  · exact ⟨id, fun _ => rfl, unchanged⟩
  · dsimp only
    split
    · exact ⟨id, fun _ => rfl, unchanged⟩
    · rw [Logged.bind_value]
      split
      · exact ⟨id, fun _ => rfl, unchanged⟩
      · exact ⟨fun s => { s with material := some r.bindings.length }, fun _ => rfl, rfl⟩

theorem commit_spec (b : Batch) (textures : TextureLibrary) (p : PendingEntry) :
    Committed b p (commit (b, textures) p).value.1 := by
  unfold commit
  cases p.texture with
  | none =>
      simp only [Logged.bind_value, Logged.pure_value, Staging.indices_addParts,
        Staging.vertexCount_addParts, List.length_append, Nat.add_sub_cancel_left]
      exact ⟨rfl, rfl, fun _ => ⟨none, rfl⟩, rfl, rfl⟩
  | some texture =>
      simp only [Logged.bind_value, Logged.pure_value, Staging.indices_addParts,
        Staging.vertexCount_addParts, List.length_append, Nat.add_sub_cancel_left]
      -- Binding writes into the slot just added, the last one.
      refine ⟨rfl, rfl, fun hb => ?_, rfl, rfl⟩
      obtain ⟨f, hf, hslots⟩ :=
        slots_bindMaterial b.registry.addEntry b.entries.length texture textures
      exact ⟨_, by rw [hslots, InstanceRegistry.addEntry, ← hb, modify_concat, hf]⟩

/-! ### Pushing an instance -/

/-- The texture unit of a node's entry, or -1. -/
def materialOf (b : Batch) (key : MeshKey) : Int32 :=
  match b.place? key with
  | none => -1
  | some place => ((b.registry.material? place).map Int32.ofNat).getD (-1)

/-- The record of an instance of a node. -/
def instanceOf (b : Batch) (d : Gltf.Document) (name : String) (t : Transform) (animation : Int32)
    (node : Nat) : InstanceRecord :=
  let pose := (d.node node).pose
  .ofTransform (t.combine pose.position pose.rotation pose.scale) (b.materialOf ⟨name, node⟩)
    animation

theorem pushInstance_of_place {d : Gltf.Document} {name : String} {t : Transform}
    {animation : Int32} {node place : Nat} (h : b.place? ⟨name, node⟩ = some place) :
    pushInstance d name t animation b node =
      { b with
        registry := b.registry.push place (b.instanceOf d name t animation node)
        entries := b.entries.modify place fun e =>
          { e with instanceCount := e.instanceCount + 1 } } := by
  rw [pushInstance, h]
  simp only [instanceOf, materialOf, h]
  cases b.registry.material? place <;> rfl

@[simp] theorem keys_pushInstance (d : Gltf.Document) (name : String) (t : Transform)
    (animation : Int32) (b : Batch) (node : Nat) :
    (pushInstance d name t animation b node).keys = b.keys := by
  cases h : b.place? ⟨name, node⟩ with
  | none => rw [pushInstance, h]
  | some place =>
      rw [pushInstance_of_place h, keys, keys, map_modify (h := id), List.modify_id]
      intro e
      rfl

end Batch

end SceneBatch
