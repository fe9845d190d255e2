import SceneBatch.Proofs.Batch.Calls

/-!
# The invariant of batches

A batch keeps the same facts in several places: entries have offsets into shared arrays and a count
of instances, the registry has the instances themselves. `Sound` says that these agree: every entry
stages a decoded mesh at its offsets (`MeshEntry.Stages`), the entries tile the staging arrays
without gaps (`MeshEntry.Tile`), and an entry counts the instances that the registry has for it.
A cleaned batch is sound, and calls preserve soundness (`Sound.after`, `Sound.run`).
-/

namespace SceneBatch

open MeshPart

namespace MeshEntry

/-- An entry stages a mesh: its range of indices holds the merged indices of the mesh's parts, and
they lead to the vertices that the parts name. -/
structure Stages (e : MeshEntry) (s : Staging) (parts : List MeshPart) : Prop where
  aligned : ∀ p ∈ parts, p.IsAligned
  indexCount : e.indexCount = (mergedIndices 0 parts).length
  indices : ∀ k i, (mergedIndices 0 parts)[k]? = some i → s.indices[e.firstIndex + k]? = some i
  stream : ∃ vs, meshStream? parts = some vs ∧
    (mergedIndices 0 parts).mapM (fun i => s.vertex? (e.baseVertex + i)) = some vs

/-- Entries tile the staging arrays, from one pair of places among vertices and indices to
another. -/
def Tile : Nat → Nat → List MeshEntry → Nat → Nat → Prop
  | vertex, index, [], lastVertex, lastIndex => vertex = lastVertex ∧ index = lastIndex
  | vertex, index, e :: es, lastVertex, lastIndex =>
    e.baseVertex = vertex ∧ e.firstIndex = index ∧
      Tile (vertex + e.vertexCount) (index + e.indexCount) es lastVertex lastIndex

variable {e : MeshEntry} {s t : Staging} {parts : List MeshPart}

/-- What is staged later leaves an entry alone. -/
theorem Stages.of_isPrefix (h : e.Stages s parts) (ht : s.IsPrefix t) : e.Stages t parts := by
  obtain ⟨vs, hparts, hvs⟩ := h.stream
  refine ⟨h.aligned, h.indexCount, fun k i hi => ?_, vs, hparts, ?_⟩
  · exact getElem?_of_isPrefix ht.indices (h.indices k i hi)
  · rw [mapM_eq_some_iff] at hvs ⊢
    exact hvs.imp fun _ _ hv => ht.vertex? hv

theorem stages_stagedEntry (hs : s.IsAligned) {p : PendingEntry}
    (hp : ∀ part ∈ p.parts, part.IsAligned) :
    (Batch.stagedEntry s p).Stages (s.addParts p.parts) p.parts := by
  have hread := Staging.mapM_vertex?_addParts hs hp
  refine ⟨hp, rfl, fun k i hi => ?_, ?_⟩
  · rw [Staging.indices_addParts]
    show (s.indices ++ _)[s.indices.length + k]? = some i
    rw [List.getElem?_append_right (Nat.le_add_right ..), Nat.add_sub_cancel_left]
    exact hi
  · obtain ⟨vs, hvs⟩ := Option.isSome_iff_exists.mp (meshStream?_isSome hp)
    exact ⟨vs, hvs, hread.trans hvs⟩

theorem Tile.concat {es : List MeshEntry} {vertex index lastVertex lastIndex : Nat}
    (h : Tile vertex index es lastVertex lastIndex) (hvertex : e.baseVertex = lastVertex)
    (hindex : e.firstIndex = lastIndex) :
    Tile vertex index (es ++ [e]) (lastVertex + e.vertexCount) (lastIndex + e.indexCount) := by
  induction es generalizing vertex index with
  | nil =>
      obtain ⟨rfl, rfl⟩ := h
      exact ⟨hvertex, hindex, rfl, rfl⟩
  | cons e' es ih => exact ⟨h.1, h.2.1, ih h.2.2⟩

/-- The part of an entry ends before the arrays do. -/
theorem Tile.bounds {es : List MeshEntry} {vertex index lastVertex lastIndex : Nat}
    (h : Tile vertex index es lastVertex lastIndex) :
    (vertex ≤ lastVertex ∧ index ≤ lastIndex) ∧ ∀ e ∈ es,
      e.baseVertex + e.vertexCount ≤ lastVertex ∧ e.firstIndex + e.indexCount ≤ lastIndex := by
  induction es generalizing vertex index with
  | nil =>
      obtain ⟨rfl, rfl⟩ := h
      exact ⟨⟨Nat.le_refl _, Nat.le_refl _⟩, fun e he => absurd he List.not_mem_nil⟩
  | cons e es ih =>
      obtain ⟨hvertex, hindex, htile⟩ := h
      obtain ⟨hle, hes⟩ := ih htile
      refine ⟨by omega, fun e' he' => ?_⟩
      rcases List.mem_cons.mp he' with rfl | he'
      · omega
      · exact hes e' he'

theorem Tile.lastIndex_eq {es : List MeshEntry} {vertex index lastVertex lastIndex : Nat}
    (h : Tile vertex index es lastVertex lastIndex) (hnone : ∀ e ∈ es, e.indexCount = 0) :
    lastIndex = index := by
  induction es generalizing vertex index with
  | nil => exact h.2.symm
  | cons e es ih =>
      rw [ih h.2.2 fun e' he' => hnone e' (List.mem_cons_of_mem e he'), hnone e List.mem_cons_self,
        Nat.add_zero]

/-- How often an entry is drawn does not matter to the tiling. -/
theorem Tile.modify {es : List MeshEntry} {vertex index lastVertex lastIndex : Nat}
    (h : Tile vertex index es lastVertex lastIndex) (place : Nat) (f : MeshEntry → Nat) :
    Tile vertex index (es.modify place fun e => { e with instanceCount := f e }) lastVertex
      lastIndex := by
  induction es generalizing vertex index place with
  | nil => cases place <;> exact h
  | cons e es ih =>
      cases place with
      | zero => exact h
      | succ place => exact ⟨h.1, h.2.1, ih h.2.2 place⟩

end MeshEntry

namespace Batch

/-- What is true of a batch at all times. `origin` relates a node to the meshes that it may have
had when it was staged. -/
structure Sound (origin : MeshKey → List MeshPart → Prop) (b : Batch) : Prop where
  counts : b.registry.slots.map (·.records.length) = b.entries.map (·.instanceCount)
  aligned : b.staging.IsAligned
  stages : ∀ e ∈ b.entries, ∃ parts, origin e.key parts ∧ e.Stages b.staging parts
  tile : MeshEntry.Tile 0 0 b.entries b.staging.vertexCount b.staging.indices.length
  copies : b.copies = b.entries.length

variable {origin : MeshKey → List MeshPart → Prop} {b b' : Batch}

theorem Sound.slots (h : b.Sound origin) : b.registry.slots.length = b.entries.length := by
  simpa using congrArg List.length h.counts

/-- Where there are no vertices there are no indices, since every index leads to a vertex. -/
theorem Sound.indices_eq_nil (h : b.Sound origin) (hnone : b.staging.vertexCount = 0) :
    b.staging.indices = [] := by
  have hempty : ∀ e ∈ b.entries, e.indexCount = 0 := by
    intro e he
    obtain ⟨parts, -, hstages⟩ := h.stages e he
    obtain ⟨vertices, -, hread⟩ := hstages.stream
    rw [mapM_eq_some_iff] at hread
    rw [hstages.indexCount]
    cases hindices : MeshPart.mergedIndices 0 parts with
    | nil => rfl
    | cons i is =>
        -- the first index would lead to a vertex
        rw [hindices] at hread
        cases hread with
        | cons hvertex _ =>
            obtain ⟨position, hposition, -⟩ := Option.bind_eq_some_iff.mp hvertex
            have hlt := (List.getElem?_eq_some_iff.mp hposition).1
            rw [Staging.vertexCount] at hnone
            omega
  exact List.length_eq_zero_iff.mp (h.tile.lastIndex_eq hempty)

theorem sound_cleanUp (origin : MeshKey → List MeshPart → Prop) (b : Batch) :
    b.cleanUp.Sound origin where
  counts := rfl
  aligned := Staging.isAligned_empty
  stages e h := by cases h
  tile := ⟨rfl, rfl⟩
  copies := rfl

theorem Sound.committed {p : PendingEntry} (hb : b.Sound origin) (hp : Committed b p b')
    (hparts : ∀ part ∈ p.parts, part.IsAligned) (horigin : origin p.key p.parts) :
    b'.Sound origin where
  counts := by
    obtain ⟨material, hslots⟩ := hp.slots hb.slots
    rw [hslots, hp.entries, List.map_append, List.map_append, hb.counts]
    rfl
  aligned := by
    rw [hp.staging]
    exact hb.aligned.addParts hparts
  stages e h := by
    rw [hp.entries] at h
    rw [hp.staging]
    rcases List.mem_append.mp h with h | h
    · obtain ⟨parts, horigin, hstages⟩ := hb.stages e h
      exact ⟨parts, horigin, hstages.of_isPrefix (Staging.isPrefix_addParts ..)⟩
    · -- the new entry was staged at the ends of the arrays
      rw [List.mem_singleton.mp h]
      exact ⟨p.parts, horigin, MeshEntry.stages_stagedEntry hb.aligned hparts⟩
  tile := by
    rw [hp.entries, hp.staging, Staging.vertexCount_addParts, Staging.indices_addParts,
      List.length_append]
    exact hb.tile.concat rfl rfl
  copies := by
    rw [hp.copies, hp.entries, hb.copies, List.length_append]
    rfl

theorem Sound.pushInstance (hb : b.Sound origin) (d : Gltf.Document) (name : String) (t : Transform)
    (animation : Int32) (node : Nat) : (pushInstance d name t animation b node).Sound origin := by
  cases h : b.place? ⟨name, node⟩ with
  | none =>
      rw [Batch.pushInstance, h]
      exact hb
  | some place =>
      rw [pushInstance_of_place h]
      refine ⟨?_, hb.aligned, fun e he => ?_, hb.tile.modify place _, ?_⟩
      · -- the slot and the entry both count one more
        rw [InstanceRegistry.push, map_modify (h := (· + 1)), map_modify (h := (· + 1)), hb.counts]
        · intro e
          rfl
        · intro slot
          exact List.length_append
      · -- the entry's geometry is as it was
        obtain ⟨e', he', rfl | rfl⟩ := exists_of_mem_modify he
        · exact hb.stages e he'
        · obtain ⟨parts, horigin, hstages⟩ := hb.stages e' he'
          exact ⟨parts, horigin, hstages.aligned, hstages.indexCount, hstages.indices,
            hstages.stream⟩
      · rw [List.length_modify]
        exact hb.copies

/-- What the device has of a batch does not matter. -/
theorem Sound.setDirty (hb : b.Sound origin) (isDirty : Bool) : { b with isDirty }.Sound origin :=
  ⟨hb.counts, hb.aligned, hb.stages, hb.tile, hb.copies⟩

/-- A call keeps a batch sound, if the meshes that it finds are among those that nodes may have. -/
theorem Sound.after {c : Call} (hb : b.Sound origin)
    (horigin : ∀ key parts, parts? c.models b.maxJoints key = some parts → origin key parts) :
    (b.after c).Sound origin := by
  refine call_induction hb ?_ ?_ ?_
  · intro b' textures p hb' hparts
    exact hb'.committed (commit_spec b' textures p) (isAligned_of_parts? hparts)
      (horigin p.key p.parts hparts)
  · intro b' d node hb'
    exact hb'.pushInstance d c.model c.transform c.animation node
  · intro b' hb'
    exact hb'.setDirty true

/-! ### Runs -/

/-- One step in the life of a batch. -/
inductive Step where
  | cleanUp
  | call (c : Call)

/-- The batch after a step. -/
def step (b : Batch) : Step → Batch
  | .cleanUp => b.cleanUp
  | .call c => b.after c

/-- The batch after some steps. -/
def run (b : Batch) (steps : List Step) : Batch := steps.foldl step b

/-- The batch after some calls. -/
def afterAll (b : Batch) (calls : List Call) : Batch := calls.foldl after b

theorem afterAll_cons (b : Batch) (c : Call) (cs : List Call) :
    b.afterAll (c :: cs) = (b.after c).afterAll cs := rfl

@[simp] theorem maxJoints_after (b : Batch) (c : Call) : (b.after c).maxJoints = b.maxJoints := by
  refine call_induction (I := fun b' => b'.maxJoints = b.maxJoints) rfl ?_ ?_ fun _ h => h
  · intro b' textures p hb' _
    exact (commit_spec b' textures p).maxJoints.trans hb'
  · intro b' d node hb'
    rw [Batch.pushInstance]
    split
    · exact hb'
    · exact hb'

@[simp] theorem maxJoints_afterAll (b : Batch) (calls : List Call) :
    (b.afterAll calls).maxJoints = b.maxJoints := by
  induction calls generalizing b with
  | nil => rfl
  | cons c cs ih => rw [afterAll_cons, ih, maxJoints_after]

/-- Calls keep a batch sound, whatever models each of them finds. -/
theorem Sound.afterAll {calls : List Call} (hb : b.Sound origin)
    (horigin : ∀ c ∈ calls, ∀ key parts, parts? c.models b.maxJoints key = some parts →
      origin key parts) :
    (b.afterAll calls).Sound origin := by
  induction calls generalizing b with
  | nil => exact hb
  | cons c cs ih =>
      refine ih (hb.after (horigin c List.mem_cons_self)) fun c' hc' => ?_
      rw [maxJoints_after]
      exact horigin c' (List.mem_cons_of_mem c hc')

theorem Sound.run (hb : b.Sound fun _ _ => True) (steps : List Step) :
    (b.run steps).Sound fun _ _ => True := by
  induction steps generalizing b with
  | nil => exact hb
  | cons s ss ih =>
      apply ih
      cases s with
      | cleanUp => exact sound_cleanUp _ b
      | call c => exact hb.after fun _ _ _ => trivial

end Batch

end SceneBatch
