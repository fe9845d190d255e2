import SceneBatch.Proofs.Batch.Slots
import SceneBatch.Proofs.Device.Capacity

/-!
# The layout of the staging arrays

The attribute arrays of a batch go along with its positions. Its entries divide the vertices and the
indices among them, each entry has a range of its own, and every index of an entry leads to one of
the entry's vertices. `Batch.IsLaidOut` says so; it is true after any calls and cleanings
(`isLaidOut_run`). Calls only add to what is there (`Batch.GrowsTo`): of an entry they change the
count of its instances and nothing else, and of what was staged nothing at all.
-/

namespace SceneBatch

open MeshPart

/-! ### Ranges in a row -/

section Row

variable {α : Type} {start count : α → Nat} {first last : Nat} {xs : List α}

/-- Ranges that follow each other from one place to another, each starting where the one before it
ends. -/
def InRow (start count : α → Nat) : Nat → List α → Nat → Prop
  | first, [], last => first = last
  | first, x :: xs, last => start x = first ∧ InRow start count (first + count x) xs last

theorem InRow.le (h : InRow start count first xs last) : first ≤ last := by
  induction xs generalizing first with
  | nil => exact Nat.le_of_eq h
  | cons x xs ih => exact (Nat.le_add_right ..).trans (ih h.2)

theorem InRow.first_le_start (h : InRow start count first xs last) : ∀ x ∈ xs, first ≤ start x := by
  induction xs generalizing first with
  | nil => simp
  | cons x xs ih =>
      intro y hy
      rcases List.mem_cons.mp hy with rfl | hy
      · exact Nat.le_of_eq h.1.symm
      · exact (Nat.le_add_right ..).trans (ih h.2 y hy)

/-- Ranges in a row have neither gaps nor overlaps: every place between the ends lies in exactly one
of them. -/
theorem InRow.existsUnique (h : InRow start count first xs last) {i : Nat} (hfirst : first ≤ i)
    (hlast : i < last) :
    ∃! place : Nat, ∃ x, xs[place]? = some x ∧ start x ≤ i ∧ i < start x + count x := by
  induction xs generalizing first with
  | nil => exact absurd (h ▸ hlast) (Nat.not_lt_of_le hfirst)
  | cons x xs ih =>
      obtain ⟨hstart, hrest⟩ := h
      by_cases hi : i < first + count x
      · -- the place lies in the first range, and all others start behind it
        refine ⟨0, ⟨x, rfl, by omega, by omega⟩, ?_⟩
        rintro (_ | place) ⟨y, hy, hle, hlt⟩
        · rfl
        · have hbehind := hrest.first_le_start y (List.mem_of_getElem? hy)
          omega
      · obtain ⟨place, hplace, hunique⟩ := ih hrest (by omega)
        refine ⟨place + 1, hplace, ?_⟩
        rintro (_ | place') ⟨y, hy, hle, hlt⟩
        · cases hy
          omega
        · rw [hunique place' ⟨y, hy, hle, hlt⟩]

end Row

/-! ### Indices of a mesh -/

namespace MeshPart

/-- The merged indices of a mesh lead to the vertices of the mesh. -/
theorem lt_of_mem_mergedIndices {parts : List MeshPart} (hparts : ∀ p ∈ parts, p.IsAligned)
    {offset i : Nat} (hi : i ∈ mergedIndices offset parts) : i < offset + vertexTotal parts := by
  induction parts generalizing offset with
  | nil => cases hi
  | cons p ps ih =>
      rw [vertexTotal_cons]
      rcases List.mem_append.mp hi with hi | hi
      · obtain ⟨j, hj, rfl⟩ := List.mem_map.mp hi
        have hlt := (hparts p List.mem_cons_self).indices j hj
        omega
      · have hlt := ih (fun q hq => hparts q (List.mem_cons_of_mem p hq)) hi
        omega

end MeshPart

namespace MeshEntry

/-- Every index of an entry leads to one of the entry's own vertices. -/
def IndexesOwn (e : MeshEntry) (s : Staging) : Prop :=
  ∀ k < e.indexCount, ∃ i, s.indices[e.firstIndex + k]? = some i ∧ i < e.vertexCount

variable {e : MeshEntry} {s t : Staging} {es : List MeshEntry}
  {vertex index lastVertex lastIndex : Nat}

theorem IndexesOwn.of_isPrefix (h : e.IndexesOwn s) (ht : s.IsPrefix t) : e.IndexesOwn t := by
  intro k hk
  obtain ⟨i, hi, hlt⟩ := h k hk
  exact ⟨i, getElem?_of_isPrefix ht.indices hi, hlt⟩

theorem indexesOwn_stagedEntry (s : Staging) {p : PendingEntry}
    (hp : ∀ part ∈ p.parts, part.IsAligned) :
    (Batch.stagedEntry s p).IndexesOwn (s.addParts p.parts) := by
  intro k hk
  have hk : k < (mergedIndices 0 p.parts).length := hk
  refine ⟨(mergedIndices 0 p.parts)[k], ?_, ?_⟩
  · rw [Staging.indices_addParts]
    show (s.indices ++ _)[s.indices.length + k]? = _
    rw [List.getElem?_append_right (Nat.le_add_right ..), Nat.add_sub_cancel_left]
    exact List.getElem?_eq_getElem hk
  · have hlt := lt_of_mem_mergedIndices hp (List.getElem_mem hk)
    rwa [Nat.zero_add] at hlt

theorem Tile.vertices (h : Tile vertex index es lastVertex lastIndex) :
    InRow (·.baseVertex) (·.vertexCount) vertex es lastVertex := by
  induction es generalizing vertex index with
  | nil => exact h.1
  | cons e es ih => exact ⟨h.1, ih h.2.2⟩

theorem Tile.indices (h : Tile vertex index es lastVertex lastIndex) :
    InRow (·.firstIndex) (·.indexCount) index es lastIndex := by
  induction es generalizing vertex index with
  | nil => exact h.2
  | cons e es ih => exact ⟨h.2.1, ih h.2.2⟩

end MeshEntry

namespace Batch

variable {b b' b'' : Batch}

/-! ### Entries with indices of their own -/

/-- No entry indexes vertices of another. -/
def IndexesOwn (b : Batch) : Prop := ∀ e ∈ b.entries, e.IndexesOwn b.staging

theorem indexesOwn_cleanUp (b : Batch) : b.cleanUp.IndexesOwn := by
  intro e he
  cases he

theorem IndexesOwn.committed {p : PendingEntry} (hb : b.IndexesOwn) (hp : Committed b p b')
    (hparts : ∀ part ∈ p.parts, part.IsAligned) : b'.IndexesOwn := by
  intro e he
  rw [hp.entries] at he
  rw [hp.staging]
  rcases List.mem_append.mp he with he | he
  · exact (hb e he).of_isPrefix (Staging.isPrefix_addParts ..)
  · rw [List.mem_singleton.mp he]
    exact MeshEntry.indexesOwn_stagedEntry b.staging hparts

theorem IndexesOwn.pushInstance (hb : b.IndexesOwn) (d : Gltf.Document) (name : String)
    (t : Transform) (animation : Int32) (node : Nat) :
    (pushInstance d name t animation b node).IndexesOwn := by
  intro e he
  cases h : b.place? ⟨name, node⟩ with
  | none =>
      rw [Batch.pushInstance, h] at he ⊢
      exact hb e he
  | some place =>
      rw [pushInstance_of_place h] at he ⊢
      obtain ⟨e', he', rfl | rfl⟩ := exists_of_mem_modify he
      · exact hb e he'
      · exact hb e' he'

theorem IndexesOwn.after (hb : b.IndexesOwn) (c : Call) : (b.after c).IndexesOwn := by
  refine call_induction hb ?_ ?_ ?_
  · intro b' textures p hb' hparts
    exact hb'.committed (commit_spec b' textures p) (isAligned_of_parts? hparts)
  · intro b' d node hb'
    exact hb'.pushInstance d c.model c.transform c.animation node
  · intro b' hb'
    exact hb'

theorem IndexesOwn.run (hb : b.IndexesOwn) (steps : List Step) : (b.run steps).IndexesOwn := by
  induction steps generalizing b with
  | nil => exact hb
  | cons s ss ih =>
      apply ih
      cases s with
      | cleanUp => exact indexesOwn_cleanUp b
      | call c => exact hb.after c

/-! ### What calls add -/

/-- What is in `b` is in `b'` at the same place. Entries may be drawn more often there. -/
structure GrowsTo (b b' : Batch) : Prop where
  entries : ∀ (place : Nat) e, b.entries[place]? = some e →
    ∃ n, e.instanceCount ≤ n ∧ b'.entries[place]? = some { e with instanceCount := n }
  staging : b.staging.IsPrefix b'.staging

theorem GrowsTo.refl (b : Batch) : b.GrowsTo b where
  entries _ e he := ⟨e.instanceCount, Nat.le_refl _, he⟩
  staging := .refl b.staging

theorem GrowsTo.trans (h : b.GrowsTo b') (h' : b'.GrowsTo b'') : b.GrowsTo b'' where
  entries place e he := by
    obtain ⟨n, hle, he'⟩ := h.entries place e he
    obtain ⟨n', hle', he''⟩ := h'.entries place _ he'
    exact ⟨n', hle.trans hle', he''⟩
  staging := h.staging.trans h'.staging

theorem Committed.growsTo {p : PendingEntry} (h : Committed b p b') : b.GrowsTo b' where
  entries place e he := by
    refine ⟨e.instanceCount, Nat.le_refl _, ?_⟩
    rw [h.entries]
    exact getElem?_of_isPrefix (List.prefix_append ..) he
  staging := by
    rw [h.staging]
    exact Staging.isPrefix_addParts ..

theorem growsTo_pushInstance (d : Gltf.Document) (name : String) (t : Transform) (animation : Int32)
    (b : Batch) (node : Nat) : b.GrowsTo (pushInstance d name t animation b node) := by
  cases h : b.place? ⟨name, node⟩ with
  | none =>
      rw [pushInstance, h]
      exact .refl b
  | some place =>
      rw [pushInstance_of_place h]
      refine ⟨fun place' e he => ?_, .refl b.staging⟩
      rw [List.getElem?_modify, he]
      by_cases hplace : place = place'
      · exact ⟨e.instanceCount + 1, Nat.le_succ _, by simp [hplace]⟩
      · exact ⟨e.instanceCount, Nat.le_refl _, by simp [hplace]⟩

theorem growsTo_after (b : Batch) (c : Call) : b.GrowsTo (b.after c) := by
  refine call_induction (I := b.GrowsTo) (.refl b) ?_ ?_ ?_
  · intro b' textures p hb' _
    exact hb'.trans (commit_spec b' textures p).growsTo
  · intro b' d node hb'
    exact hb'.trans (growsTo_pushInstance d c.model c.transform c.animation b' node)
  · intro b' hb'
    exact ⟨hb'.entries, hb'.staging⟩

theorem growsTo_afterAll (b : Batch) (calls : List Call) : b.GrowsTo (b.afterAll calls) := by
  induction calls generalizing b with
  | nil => exact .refl b
  | cons c cs ih => exact (growsTo_after b c).trans (ih (b.after c))

/-! ### Reachable batches -/

/-- The entries of a batch divide its staging arrays among them. -/
structure IsLaidOut (b : Batch) : Prop where
  aligned : b.staging.IsAligned
  padded : b.staging.pad = b.staging
  tile : MeshEntry.Tile 0 0 b.entries b.staging.vertexCount b.staging.indices.length
  vertices : ∀ i < b.staging.vertexCount, ∃! place : Nat, ∃ e, b.entries[place]? = some e ∧
    e.baseVertex ≤ i ∧ i < e.baseVertex + e.vertexCount
  indices : ∀ k < b.staging.indices.length, ∃! place : Nat, ∃ e, b.entries[place]? = some e ∧
    e.firstIndex ≤ k ∧ k < e.firstIndex + e.indexCount
  /-- Numbers of a fixed width are wide enough for entries as long as they are for the arrays. -/
  bounds : ∀ e ∈ b.entries, e.baseVertex + e.vertexCount ≤ b.staging.vertexCount ∧
    e.firstIndex + e.indexCount ≤ b.staging.indices.length
  own : b.IndexesOwn

theorem Sound.isLaidOut {origin : MeshKey → List MeshPart → Prop} (hb : b.Sound origin)
    (hown : b.IndexesOwn) : b.IsLaidOut where
  aligned := hb.aligned
  padded := Staging.pad_of_isAligned hb.aligned
  tile := hb.tile
  vertices i hi := hb.tile.vertices.existsUnique (Nat.zero_le i) hi
  indices k hk := hb.tile.indices.existsUnique (Nat.zero_le k) hk
  bounds := hb.tile.bounds.2
  own := hown

/-- Whatever was added to a batch, and however often it was cleaned, it is laid out, and later calls
leave what is there as it is. -/
theorem isLaidOut_run (maxUnits maxJoints : Nat) (steps : List Step) :
    ((empty maxUnits maxJoints).run steps).IsLaidOut ∧
      ∀ calls, ((empty maxUnits maxJoints).run steps).GrowsTo
        (((empty maxUnits maxJoints).run steps).afterAll calls) := by
  have hown : ((empty maxUnits maxJoints).run steps).IndexesOwn := by
    apply IndexesOwn.run
    rw [← cleanUp_empty]
    exact indexesOwn_cleanUp _
  exact ⟨(sound_run_empty maxUnits maxJoints steps).isLaidOut hown, growsTo_afterAll _⟩

end Batch

end SceneBatch
