import SceneBatch.Proofs.Batch.Calls

/-!
# Models that cannot be added

Adding a model fails for one of three reasons (`Batch.Refuses`): there is no such model, it has no
default scene, or a part of a root node cannot be decoded that has no entry yet. However many nodes
and parts were decoded before that one, none of them is kept: `refused_leaves_no_trace` says that
neither the batch nor the texture library shows that the call was made.
-/

namespace SceneBatch

namespace Batch

open MeshPart

/-- The root nodes with a mesh that a model would give entries to. -/
def newNodes (b : Batch) (m : Model) (name : String) (roots : List Nat) : List (Nat × Gltf.Mesh) :=
  (withMeshes m.document roots).filter fun (node, _) => (b.place? ⟨name, node⟩).isNone

/-- Why an instance of a model cannot be added. A part that cannot be decoded is the first one:
the nodes in front of it, and the parts of its own node in front of it, all can be. -/
inductive Refuses (b : Batch) (models : ModelLibrary) (name : String) : Fault → Prop
  | unknown (hmodel : models.find? name = none) : Refuses b models name (.modelNotFound name)
  | sceneless {m : Model} (hmodel : models.find? name = some m)
      (hscene : m.document.defaultRoots? = none) : Refuses b models name (.noDefaultScene name)
  | undecodable {m : Model} {roots : List Nat} {earlier later : List (Nat × Gltf.Mesh)}
      {node : Nat} {mesh : Gltf.Mesh} {before after : List Gltf.Primitive} {p : Gltf.Primitive}
      {fault : Fault} (hmodel : models.find? name = some m)
      (hscene : m.document.defaultRoots? = some roots)
      (hnodes : b.newNodes m name roots = earlier ++ (node, mesh) :: later)
      (hearlier : ∀ x ∈ earlier, ∀ q ∈ x.2.primitives, ∃ part, decode m q b.maxJoints = .ok part)
      (hprimitives : mesh.primitives = before ++ p :: after)
      (hbefore : ∀ q ∈ before, ∃ part, decode m q b.maxJoints = .ok part)
      (hfault : decode m p b.maxJoints = .error fault) : Refuses b models name fault

variable {b : Batch} {models : ModelLibrary} {name : String} {m : Model} {fault : Fault}

/-! ### Decoding nodes -/

/-- A node can be decoded exactly when all parts of its mesh can be. -/
theorem decodeEntry_isOk_iff {maxJoints node : Nat} {mesh : Gltf.Mesh} :
    (∃ p, decodeEntry m name maxJoints node mesh = .ok p) ↔
      ∀ q ∈ mesh.primitives, ∃ part, decode m q maxJoints = .ok part := by
  constructor
  · rintro ⟨p, hp⟩ q hq
    obtain ⟨parts, hparts, -⟩ := exists_of_bind_eq_ok hp
    obtain ⟨part, -, hpart⟩ := exists_mem_of_forall₂ (mapM_eq_ok_iff.mp hparts) hq
    exact ⟨part, hpart⟩
  · intro hall
    obtain ⟨parts, hparts⟩ := exists_forall₂ hall
    refine ⟨⟨⟨name, node⟩, parts, mesh.primitives.findSome? m.baseColorTexture?⟩, ?_⟩
    rw [decodeEntry, mapM_eq_ok_iff.mpr hparts]
    rfl

theorem decodeEntry_eq_error_iff {maxJoints node : Nat} {mesh : Gltf.Mesh} :
    decodeEntry m name maxJoints node mesh = .error fault ↔
      ∃ before p after, mesh.primitives = before ++ p :: after ∧
        (∀ q ∈ before, ∃ part, decode m q maxJoints = .ok part) ∧
        decode m p maxJoints = .error fault := by
  rw [decodeEntry, bind_eq_error_iff, mapM_eq_error_iff]
  constructor
  · rintro (h | ⟨parts, -, h⟩)
    · exact h
    · cases h
  · exact .inl

/-- Decoding the new nodes of a model stops at the first part that cannot be decoded. -/
theorem pendingEntries_eq_error_iff {nodes : List (Nat × Gltf.Mesh)} :
    b.pendingEntries m name nodes = .error fault ↔
      ∃ earlier node mesh later before p after,
        nodes.filter (fun (node, _) => (b.place? ⟨name, node⟩).isNone) =
          earlier ++ (node, mesh) :: later ∧
        (∀ x ∈ earlier, ∀ q ∈ x.2.primitives, ∃ part, decode m q b.maxJoints = .ok part) ∧
        mesh.primitives = before ++ p :: after ∧
        (∀ q ∈ before, ∃ part, decode m q b.maxJoints = .ok part) ∧
        decode m p b.maxJoints = .error fault := by
  rw [pendingEntries, mapM_eq_error_iff]
  constructor
  · -- the first node that fails, and in it the first part
    rintro ⟨earlier, ⟨node, mesh⟩, later, hnodes, hearlier, hfault⟩
    obtain ⟨before, p, after, hprimitives, hbefore, hfault⟩ := decodeEntry_eq_error_iff.mp hfault
    refine ⟨earlier, node, mesh, later, before, p, after, hnodes, ?_, hprimitives, hbefore, hfault⟩
    intro x hx
    exact decodeEntry_isOk_iff.mp (hearlier x hx)
  · rintro ⟨earlier, node, mesh, later, before, p, after, hnodes, hearlier, hprimitives, hbefore,
      hfault⟩
    refine ⟨earlier, (node, mesh), later, hnodes, ?_, ?_⟩
    · intro x hx
      exact decodeEntry_isOk_iff.mpr (hearlier x hx)
    · exact decodeEntry_eq_error_iff.mpr ⟨before, p, after, hprimitives, hbefore, hfault⟩

/-! ### Refused calls -/

theorem get_eq_ok_iff : models.get name = .ok m ↔ models.find? name = some m := by
  rw [ModelLibrary.get]
  cases models.find? name with
  | none => simp
  | some found => simp

theorem plan_of_unknown (hmodel : models.find? name = none) :
    b.plan models name = .error (.modelNotFound name) := by
  rw [plan, ModelLibrary.get, hmodel]
  rfl

theorem plan_of_sceneless (hmodel : models.find? name = some m)
    (hscene : m.document.defaultRoots? = none) :
    b.plan models name = .error (.noDefaultScene name) := by
  rw [plan, get_eq_ok_iff.mpr hmodel]
  dsimp only [bind, Except.bind]
  rw [hscene]
  rfl

theorem plan_of_scene {roots : List Nat} (hmodel : models.find? name = some m)
    (hscene : m.document.defaultRoots? = some roots) :
    b.plan models name = do
      let pending ← b.pendingEntries m name (withMeshes m.document roots)
      return (m, (withMeshes m.document roots).map Prod.fst, pending) := by
  rw [plan, get_eq_ok_iff.mpr hmodel]
  dsimp only [bind, Except.bind]
  rw [hscene]
  dsimp only
  rw [meshNodes_eq_withMeshes]

theorem Refuses.plan_eq (h : b.Refuses models name fault) : b.plan models name = .error fault := by
  cases h with
  | unknown hmodel => exact plan_of_unknown hmodel
  | sceneless hmodel hscene => exact plan_of_sceneless hmodel hscene
  | undecodable hmodel hscene hnodes hearlier hprimitives hbefore hfault =>
      rw [plan_of_scene hmodel hscene, bind_eq_error_iff, pendingEntries_eq_error_iff]
      exact .inl ⟨_, _, _, _, _, _, _, hnodes, hearlier, hprimitives, hbefore, hfault⟩

/-- Where nothing can be planned, there is a reason. -/
theorem refuses_of_plan_eq (h : b.plan models name = .error fault) :
    b.Refuses models name fault := by
  cases hmodel : models.find? name with
  | none =>
      rw [plan_of_unknown hmodel] at h
      cases h
      exact .unknown hmodel
  | some m =>
      cases hscene : m.document.defaultRoots? with
      | none =>
          rw [plan_of_sceneless hmodel hscene] at h
          cases h
          exact .sceneless hmodel hscene
      | some roots =>
          rw [plan_of_scene hmodel hscene] at h
          -- behind the decoding nothing can fail
          rcases bind_eq_error_iff.mp h with h | ⟨pending, -, h⟩
          · obtain ⟨earlier, node, mesh, later, before, p, after, hnodes, hearlier, hprimitives,
              hbefore, hfault⟩ := pendingEntries_eq_error_iff.mp h
            exact .undecodable hmodel hscene hnodes hearlier hprimitives hbefore hfault
          · cases h

theorem addModel_of_plan_eq_error (h : b.plan models name = .error fault) (t : Transform)
    (animation : Int32) (textures : TextureLibrary) :
    b.addModel models name t animation textures = pure (.error fault, b, textures) := by
  rw [addModel, h]

/-- Adding a model fails exactly when there is a reason to refuse it, with that fault. Then the
batch, the texture library and the log are as if nothing had been tried. -/
theorem refused_leaves_no_trace (b : Batch) (models : ModelLibrary) (name : String) (t : Transform)
    (animation : Int32) (textures : TextureLibrary) (fault : Fault) :
    ((b.addModel models name t animation textures).value.1 = .error fault ↔
        b.Refuses models name fault) ∧
      ((b.addModel models name t animation textures).value.1 = .error fault →
        (b.addModel models name t animation textures).value.2 = (b, textures) ∧
          (b.addModel models name t animation textures).lines = []) := by
  cases hplan : b.plan models name with
  | error cause =>
      -- nothing is done before the plan is made
      rw [addModel_of_plan_eq_error hplan]
      refine ⟨⟨?_, ?_⟩, fun _ => ⟨rfl, rfl⟩⟩
      · intro h
        cases h
        exact refuses_of_plan_eq hplan
      · intro h
        cases hplan.symm.trans h.plan_eq
        rfl
  | ok planned =>
      have hok : (b.addModel models name t animation textures).value.1 = .ok () := by
        rw [addModel, hplan]
        rfl
      rw [hok]
      refine ⟨⟨?_, ?_⟩, ?_⟩
      · intro h
        cases h
      · intro h
        cases hplan.symm.trans h.plan_eq
      · intro h
        cases h

end Batch

end SceneBatch
