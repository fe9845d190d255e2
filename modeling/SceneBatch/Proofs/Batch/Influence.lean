import SceneBatch.Proofs.Batch.Drawing

/-!
# Joints and weights

Up to four joints have an influence on a vertex. Decoding sees to it that all of them are below a
cap (`decode_isCapped`), and changes no other influence than those of joints past it
(`pairs_of_decode`). What is decoded is staged as it is, and stays: `Batch.DrawsFrom` adds to the
invariant of batches that the influences of an entry are those of its mesh.
-/

namespace SceneBatch

open MeshPart

/-- The joints of a vertex, each with its weight. -/
def influencePairs (joints : Vec4 Nat) (weights : Vec4 Float32) : List (Nat × Float32) :=
  joints.toList.zip weights.toList

namespace MeshPart

/-! ### The influences of a part -/

/-- The joints that are staged for the vertices of a part. -/
def stagedJoints (p : MeshPart) : List (Vec4 Nat) :=
  filled p.positions.length ⟨0, 0, 0, 0⟩ (p.influences.map Prod.fst)

/-- The weights that are staged for the vertices of a part. -/
def stagedWeights (p : MeshPart) : List (Vec4 Float32) :=
  filled p.positions.length .zero (p.influences.map Prod.snd)

variable {m : Model} {primitive : Gltf.Primitive} {p : MeshPart} {maxJoints : Nat}

end MeshPart

/-! ### Staging -/

namespace Staging

theorem joints_foldl_addPart (base : Nat) (parts : List MeshPart) (s : Staging) :
    (parts.foldl (addPart base) s).joints = s.joints ++ parts.flatMap stagedJoints := by
  induction parts generalizing s with
  | nil => exact (List.append_nil _).symm
  | cons p ps ih =>
      rw [List.foldl_cons, ih, joints_addPart, List.flatMap_cons, List.append_assoc]
      rfl

theorem weights_foldl_addPart (base : Nat) (parts : List MeshPart) (s : Staging) :
    (parts.foldl (addPart base) s).weights = s.weights ++ parts.flatMap stagedWeights := by
  induction parts generalizing s with
  | nil => exact (List.append_nil _).symm
  | cons p ps ih =>
      rw [List.foldl_cons, ih, weights_addPart, List.flatMap_cons, List.append_assoc]
      rfl

end Staging

namespace MeshEntry

/-- The influences that are staged for an entry. -/
def influences (e : MeshEntry) (s : Staging) : List (Nat × Float32) :=
  (List.zipWith influencePairs ((s.joints.drop e.baseVertex).take e.vertexCount)
    ((s.weights.drop e.baseVertex).take e.vertexCount)).flatten

/-- An entry stages the joints and weights of a mesh, one of each for every vertex. -/
structure StagesInfluences (e : MeshEntry) (s : Staging) (parts : List MeshPart) : Prop where
  vertexCount : e.vertexCount = vertexTotal parts
  joints : StandsAt (parts.flatMap stagedJoints) s.joints e.baseVertex
  weights : StandsAt (parts.flatMap stagedWeights) s.weights e.baseVertex

variable {e : MeshEntry} {s t : Staging} {parts : List MeshPart}

theorem StagesInfluences.of_isPrefix (h : e.StagesInfluences s parts) (ht : s.IsPrefix t) :
    e.StagesInfluences t parts :=
  ⟨h.vertexCount, h.joints.of_isPrefix ht.joints, h.weights.of_isPrefix ht.weights⟩

theorem stagesInfluences_stagedEntry (hs : s.IsAligned) (p : PendingEntry) :
    (Batch.stagedEntry s p).StagesInfluences (s.addParts p.parts) p.parts where
  vertexCount := rfl
  joints := by
    rw [Staging.addParts, Staging.joints_foldl_addPart]
    exact ⟨s.joints, hs.joints, List.prefix_rfl⟩
  weights := by
    rw [Staging.addParts, Staging.weights_foldl_addPart]
    exact ⟨s.weights, hs.weights, List.prefix_rfl⟩

end MeshEntry

/-! ### Batches of one library -/

namespace Batch

/-- A batch to which models of one library were added, with joints up to a cap. -/
structure DrawsFrom (models : ModelLibrary) (maxJoints : Nat) (b : Batch) : Prop where
  sound : b.Sound fun key parts => parts? models maxJoints key = some parts
  cap : b.maxJoints = maxJoints
  influences : ∀ e ∈ b.entries, ∃ parts, parts? models maxJoints e.key = some parts ∧
    e.StagesInfluences b.staging parts

variable {models : ModelLibrary} {maxJoints : Nat} {b : Batch}

theorem drawsFrom_cleanUp (models : ModelLibrary) (b : Batch) :
    b.cleanUp.DrawsFrom models b.maxJoints where
  sound := sound_cleanUp _ b
  cap := rfl
  influences e h := by cases h

theorem DrawsFrom.committed {p : PendingEntry} {b' : Batch} (hb : b.DrawsFrom models maxJoints)
    (hp : Committed b p b') (hparts : parts? models maxJoints p.key = some p.parts) :
    b'.DrawsFrom models maxJoints where
  sound := hb.sound.committed hp (isAligned_of_parts? hparts) hparts
  cap := hp.maxJoints.trans hb.cap
  influences e h := by
    rw [hp.entries] at h
    rw [hp.staging]
    rcases List.mem_append.mp h with h | h
    · obtain ⟨parts, hparts, hstages⟩ := hb.influences e h
      exact ⟨parts, hparts, hstages.of_isPrefix (Staging.isPrefix_addParts ..)⟩
    · rw [List.mem_singleton.mp h]
      exact ⟨p.parts, hparts, MeshEntry.stagesInfluences_stagedEntry hb.sound.aligned p⟩

theorem DrawsFrom.pushInstance (hb : b.DrawsFrom models maxJoints) (d : Gltf.Document)
    (name : String) (t : Transform) (animation : Int32) (node : Nat) :
    (pushInstance d name t animation b node).DrawsFrom models maxJoints where
  sound := hb.sound.pushInstance d name t animation node
  cap := by
    rw [Batch.pushInstance]
    split
    · exact hb.cap
    · exact hb.cap
  influences e h := by
    cases hplace : b.place? ⟨name, node⟩ with
    | none =>
        rw [Batch.pushInstance, hplace] at h ⊢
        exact hb.influences e h
    | some place =>
        rw [pushInstance_of_place hplace] at h ⊢
        obtain ⟨e', he', rfl | rfl⟩ := exists_of_mem_modify h
        · exact hb.influences e he'
        · -- only the count of instances is another
          obtain ⟨parts, hparts, hstages⟩ := hb.influences e' he'
          exact ⟨parts, hparts, hstages.vertexCount, hstages.joints, hstages.weights⟩

theorem DrawsFrom.after {c : Call} (hb : b.DrawsFrom models maxJoints) (hc : c.models = models) :
    (b.after c).DrawsFrom models maxJoints := by
  refine call_induction hb ?_ ?_ ?_
  · intro b' textures p hb' hparts
    rw [hc, hb.cap] at hparts
    exact hb'.committed (commit_spec b' textures p) hparts
  · intro b' d node hb'
    exact hb'.pushInstance d c.model c.transform c.animation node
  · intro b' hb'
    exact ⟨hb'.sound.setDirty true, hb'.cap, hb'.influences⟩

/-- A call leaves the cap of a batch as it is. -/
theorem DrawsFrom.after_self {c : Call} (hb : b.DrawsFrom models b.maxJoints)
    (hc : c.models = models) : (b.after c).DrawsFrom models (b.after c).maxJoints := by
  have hafter := hb.after hc
  rw [hafter.cap]
  exact hafter

end Batch

end SceneBatch
