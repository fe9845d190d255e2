import SceneBatch.Batch.Staging
import SceneBatch.Proofs.Batch.Part
import SceneBatch.Proofs.ListLemmas

/-!
# What the staging arrays hold

A mesh is staged by writing its parts one behind the other. The vertices of a part can be read
back from the place where they were written (`vertex?_addPart`), the indices of the mesh are
those of its parts, moved by the vertices in front (`indices_addParts`), and whatever was staged
before stays where it was (`isPrefix_addParts`). Together: the staged indices of a mesh name the
vertices that its parts name, in the same order (`mapM_vertex?_addParts`).
-/

namespace SceneBatch

namespace MeshPart

/-- The indices of the parts of a mesh as they are staged, where `offset` vertices of the mesh
come before. -/
def mergedIndices : Nat → List MeshPart → List Nat
  | _, [] => []
  | offset, p :: ps =>
    p.indices.map (· + offset) ++ mergedIndices (offset + p.positions.length) ps

end MeshPart

namespace Staging

open MeshPart

/-- The vertex at a place of the staging arrays. -/
def vertex? (s : Staging) (i : Nat) : Option Vertex := do
  return ⟨← s.positions[i]?, ← s.normals[i]?, ← s.texcoords[i]?, ← s.joints[i]?, ← s.weights[i]?⟩

/-- Every attribute array goes along with the positions. -/
structure IsAligned (s : Staging) : Prop where
  normals : s.normals.length = s.vertexCount
  texcoords : s.texcoords.length = s.vertexCount
  joints : s.joints.length = s.vertexCount
  weights : s.weights.length = s.vertexCount

/-- All that stands in `s` stands at the same places in `t`. -/
structure IsPrefix (s t : Staging) : Prop where
  positions : s.positions <+: t.positions
  normals : s.normals <+: t.normals
  texcoords : s.texcoords <+: t.texcoords
  joints : s.joints <+: t.joints
  weights : s.weights <+: t.weights
  indices : s.indices <+: t.indices

variable {s t u : Staging} {p : MeshPart}

theorem isAligned_empty : IsAligned {} := ⟨rfl, rfl, rfl, rfl⟩

theorem IsPrefix.refl (s : Staging) : IsPrefix s s :=
  ⟨List.prefix_rfl, List.prefix_rfl, List.prefix_rfl, List.prefix_rfl, List.prefix_rfl,
    List.prefix_rfl⟩

theorem IsPrefix.trans (h : IsPrefix s t) (h' : IsPrefix t u) : IsPrefix s u :=
  ⟨h.positions.trans h'.positions, h.normals.trans h'.normals, h.texcoords.trans h'.texcoords,
    h.joints.trans h'.joints, h.weights.trans h'.weights, h.indices.trans h'.indices⟩

/-- A vertex that was staged stays where it is. -/
theorem IsPrefix.vertex? (h : IsPrefix s t) {i : Nat} {v : Vertex} (hv : s.vertex? i = some v) :
    t.vertex? i = some v := by
  obtain ⟨a, ha, hv⟩ := Option.bind_eq_some_iff.mp hv
  obtain ⟨b, hb, hv⟩ := Option.bind_eq_some_iff.mp hv
  obtain ⟨c, hc, hv⟩ := Option.bind_eq_some_iff.mp hv
  obtain ⟨d, hd, hv⟩ := Option.bind_eq_some_iff.mp hv
  obtain ⟨e, he, hv⟩ := Option.bind_eq_some_iff.mp hv
  rw [Staging.vertex?, getElem?_of_isPrefix h.positions ha, getElem?_of_isPrefix h.normals hb,
    getElem?_of_isPrefix h.texcoords hc, getElem?_of_isPrefix h.joints hd,
    getElem?_of_isPrefix h.weights he]
  exact hv

/-! ### Adding one part -/

@[simp] theorem vertexCount_addPart (base : Nat) (s : Staging) (p : MeshPart) :
    (addPart base s p).vertexCount = s.vertexCount + p.positions.length := by
  simp [addPart, vertexCount]

@[simp] theorem indices_addPart (base : Nat) (s : Staging) (p : MeshPart) :
    (addPart base s p).indices = s.indices ++ p.indices.map (· + (s.vertexCount - base)) := rfl

theorem isPrefix_addPart (base : Nat) (s : Staging) (p : MeshPart) :
    IsPrefix s (addPart base s p) :=
  ⟨List.prefix_append .., List.prefix_append .., List.prefix_append .., List.prefix_append ..,
    List.prefix_append .., List.prefix_append ..⟩

@[simp] theorem joints_addPart (base : Nat) (s : Staging) (p : MeshPart) :
    (addPart base s p).joints =
      s.joints ++ filled p.positions.length ⟨0, 0, 0, 0⟩ (p.influences.map Prod.fst) := by
  cases h : p.influences <;> simp [addPart, filled, h]

@[simp] theorem weights_addPart (base : Nat) (s : Staging) (p : MeshPart) :
    (addPart base s p).weights =
      s.weights ++ filled p.positions.length .zero (p.influences.map Prod.snd) := by
  cases h : p.influences <;> simp [addPart, filled, h]

theorem IsAligned.addPart (hs : s.IsAligned) (base : Nat) (hp : p.IsAligned) :
    (addPart base s p).IsAligned := by
  refine ⟨?_, ?_, ?_, ?_⟩
  · rw [vertexCount_addPart, ← hs.normals, ← length_filled .zero hp.normals]
    exact List.length_append
  · rw [vertexCount_addPart, ← hs.texcoords, ← length_filled ⟨0, 0⟩ hp.texcoords]
    exact List.length_append
  · rw [joints_addPart, List.length_append, length_filled _ hp.length_joints, hs.joints,
      vertexCount_addPart]
  · rw [weights_addPart, List.length_append, length_filled _ hp.length_weights, hs.weights,
      vertexCount_addPart]

/-- The vertices of a part stand behind those that were there before. -/
theorem vertex?_addPart (hs : s.IsAligned) (base i : Nat) (p : MeshPart) :
    (addPart base s p).vertex? (s.vertexCount + i) = p.vertex? i := by
  -- each of the five arrays has the part's attribute behind as many elements as there are vertices
  have behind {α : Type} {xs : List α} (ys : List α) (h : xs.length = s.vertexCount) :
      (xs ++ ys)[s.vertexCount + i]? = ys[i]? := by
    rw [← h, List.getElem?_append_right (Nat.le_add_right ..), Nat.add_sub_cancel_left]
  rw [Staging.vertex?, MeshPart.vertex?, joints_addPart, weights_addPart, behind _ hs.joints,
    behind _ hs.weights]
  show ((s.positions ++ _)[s.vertexCount + i]?.bind fun _ => (s.normals ++ _)[_]?.bind fun _ =>
    (s.texcoords ++ _)[_]?.bind _) = _
  rw [behind p.positions rfl, behind _ hs.normals, behind _ hs.texcoords]
  rfl

/-! ### Adding the parts of a mesh -/

theorem isPrefix_foldl_addPart (base : Nat) (parts : List MeshPart) (s : Staging) :
    IsPrefix s (parts.foldl (Staging.addPart base) s) := by
  induction parts generalizing s with
  | nil => exact .refl s
  | cons p ps ih => exact (isPrefix_addPart base s p).trans (ih _)

theorem IsAligned.foldl_addPart (base : Nat) {parts : List MeshPart}
    (hparts : ∀ p ∈ parts, p.IsAligned) (hs : s.IsAligned) :
    (parts.foldl (Staging.addPart base) s).IsAligned := by
  induction parts generalizing s with
  | nil => exact hs
  | cons p ps ih =>
      exact ih (fun q hq => hparts q (List.mem_cons_of_mem p hq))
        (hs.addPart base (hparts p List.mem_cons_self))

theorem vertexCount_foldl_addPart (base : Nat) (parts : List MeshPart) (s : Staging) :
    (parts.foldl (Staging.addPart base) s).vertexCount = s.vertexCount + vertexTotal parts := by
  induction parts generalizing s with
  | nil => rfl
  | cons p ps ih => rw [List.foldl_cons, ih, vertexCount_addPart, vertexTotal_cons, Nat.add_assoc]

theorem indices_foldl_addPart {base : Nat} (parts : List MeshPart) (hbase : base ≤ s.vertexCount) :
    (parts.foldl (Staging.addPart base) s).indices =
      s.indices ++ mergedIndices (s.vertexCount - base) parts := by
  induction parts generalizing s with
  | nil => exact (List.append_nil _).symm
  | cons p ps ih =>
      have hlater : base ≤ (Staging.addPart base s p).vertexCount := by
        rw [vertexCount_addPart]; omega
      have hoffset : (Staging.addPart base s p).vertexCount - base =
          s.vertexCount - base + p.positions.length := by
        rw [vertexCount_addPart]; omega
      rw [List.foldl_cons, ih hlater, hoffset, indices_addPart, List.append_assoc]
      rfl

/-- The indices of a part lead to its vertices, also when more was staged since. -/
theorem mapM_vertex?_of_isPrefix {base : Nat} (hs : s.IsAligned) (hp : p.IsAligned)
    (hbase : base ≤ s.vertexCount) (ht : IsPrefix (Staging.addPart base s p) t) :
    (p.indices.map (· + (s.vertexCount - base))).mapM (fun i => t.vertex? (base + i)) =
      p.stream? := by
  obtain ⟨vs, hvs⟩ := Option.isSome_iff_exists.mp (stream?_isSome hp)
  rw [hvs, List.mapM_map, mapM_eq_some_iff]
  refine (mapM_eq_some_iff.mp hvs).imp fun i v hv => ht.vertex? ?_
  have hplace : base + (i + (s.vertexCount - base)) = s.vertexCount + i := by omega
  rw [hplace, vertex?_addPart hs]
  exact hv

theorem mapM_vertex?_foldl_addPart {base : Nat} {parts : List MeshPart} (hs : s.IsAligned)
    (hparts : ∀ p ∈ parts, p.IsAligned) (hbase : base ≤ s.vertexCount) :
    (mergedIndices (s.vertexCount - base) parts).mapM
        (fun i => (parts.foldl (Staging.addPart base) s).vertex? (base + i)) =
      meshStream? parts := by
  induction parts generalizing s with
  | nil => rfl
  | cons p ps ih =>
      have hp : p.IsAligned := hparts p List.mem_cons_self
      have hlater : base ≤ (Staging.addPart base s p).vertexCount := by
        rw [vertexCount_addPart]; omega
      have hoffset : (Staging.addPart base s p).vertexCount - base =
          s.vertexCount - base + p.positions.length := by
        rw [vertexCount_addPart]; omega
      -- the later parts are read from the same staging arrays, which have this part as a prefix
      have hrest := ih (hs.addPart base hp) (fun q hq => hparts q (List.mem_cons_of_mem p hq))
        hlater
      rw [hoffset] at hrest
      rw [List.foldl_cons, mergedIndices, List.mapM_append, hrest,
        mapM_vertex?_of_isPrefix hs hp hbase (isPrefix_foldl_addPart base ps _), meshStream?_cons]

theorem isPrefix_addParts (s : Staging) (parts : List MeshPart) : IsPrefix s (s.addParts parts) :=
  isPrefix_foldl_addPart s.vertexCount parts s

theorem IsAligned.addParts {parts : List MeshPart} (hparts : ∀ p ∈ parts, p.IsAligned)
    (hs : s.IsAligned) : (s.addParts parts).IsAligned :=
  hs.foldl_addPart s.vertexCount hparts

@[simp] theorem vertexCount_addParts (s : Staging) (parts : List MeshPart) :
    (s.addParts parts).vertexCount = s.vertexCount + vertexTotal parts :=
  vertexCount_foldl_addPart s.vertexCount parts s

@[simp] theorem indices_addParts (s : Staging) (parts : List MeshPart) :
    (s.addParts parts).indices = s.indices ++ mergedIndices 0 parts := by
  have h := indices_foldl_addPart parts (Nat.le_refl s.vertexCount)
  rwa [Nat.sub_self] at h

/-- The staged indices of a mesh name the vertices that its parts name. -/
theorem mapM_vertex?_addParts {parts : List MeshPart} (hs : s.IsAligned)
    (hparts : ∀ p ∈ parts, p.IsAligned) :
    (mergedIndices 0 parts).mapM (fun i => (s.addParts parts).vertex? (s.vertexCount + i)) =
      meshStream? parts := by
  have h := mapM_vertex?_foldl_addPart hs hparts (Nat.le_refl s.vertexCount)
  rwa [Nat.sub_self] at h

end Staging

end SceneBatch
