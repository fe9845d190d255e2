import SceneBatch.Proofs.Frame.Loads
import SceneBatch.Proofs.Frame.Palette

/-!
# Skeletons of replaced models

A model takes the place of one that was loaded under the same name before, but a skeleton is made
once and stays. So the skeleton of a name belongs to the model that was the first to be loaded with
its animation, and animated entities are posed with it: `Assets.KeepsFirst` says so, and
`keepsFirst_run` that it is true after any loads. If that model was replaced since, then its
skeleton is not that of the model that is drawn (`exists_skeleton_of_replaced_model`).
-/

namespace SceneBatch

/-! ### First and last -/

/-- The first model of a name with its animation, between what was taken in before and after it. -/
theorem exists_split_of_firstAnimated? {taken : List (Model × Bool)} {name : String} {m : Model}
    (h : firstAnimated? taken name = some m) :
    ∃ before after, taken = before ++ (m, true) :: after ∧ m.name = name ∧
      ∀ x ∈ before, x.1.name = name → x.2 = false := by
  obtain ⟨⟨m', isAnimated⟩, hfound, rfl⟩ := Option.map_eq_some_iff.mp h
  obtain ⟨hp, before, after, rfl, hbefore⟩ := List.find?_eq_some_iff_append.mp hfound
  obtain ⟨rfl, hname⟩ : isAnimated = true ∧ m'.name = name := by simpa using hp
  refine ⟨before, after, rfl, hname, ?_⟩
  intro x hx hxname
  simpa [hxname] using hbefore x hx

theorem firstAnimated?_isSome_iff {taken : List (Model × Bool)} {name : String} :
    (firstAnimated? taken name).isSome ↔ ∃ m, (m, true) ∈ taken ∧ m.name = name := by
  simp only [firstAnimated?, Option.isSome_map, List.find?_isSome, decide_eq_true_eq]
  constructor
  · rintro ⟨⟨m, isAnimated⟩, hmem, hanimated, hname⟩
    exact ⟨m, hanimated ▸ hmem, hname⟩
  · rintro ⟨m, hmem, hname⟩
    exact ⟨(m, true), hmem, rfl, hname⟩

/-- The last model of a name is a later one, or this one if there is none. -/
theorem latest?_append (before after : List (Model × Bool)) (m : Model) (isAnimated : Bool) :
    latest? (before ++ (m, isAnimated) :: after) m.name =
      some ((latest? after m.name).getD m) := by
  rw [latest?, latest?, List.reverse_append, List.reverse_cons, List.find?_append,
    List.find?_append]
  cases after.reverse.find? fun x => x.1.name = m.name with
  | some x => rfl
  | none => simp

namespace Assets

variable {c : RenderConfig} {taken : List (Model × Bool)} {a : Assets}

/-- The skeletons of assets that models were taken in by: that of the first model of each name that
was taken in with its animation, while the model itself may have been replaced by a later one. -/
structure KeepsFirst (c : RenderConfig) (taken : List (Model × Bool)) (a : Assets) : Prop where
  found : ∀ name, (a.skeletons.find? name).isSome ↔ ∃ m, (m, true) ∈ taken ∧ m.name = name
  first : ∀ name s, a.skeletons.find? name = some s →
    ∃ before m after, taken = before ++ (m, true) :: after ∧ m.name = name ∧
      (∀ x ∈ before, x.1.name = name → x.2 = false) ∧
      s = (Skeleton.ofModel name m (max c.maxJoints 1)).value ∧
      a.models.find? name = some ((latest? after name).getD m)
  posed : ∀ (f : Frame) (w : World), f.MadeFor c →
    ∀ (k : Nat) v, (Visit.placed (f.animatedVisits w a))[k]? = some v →
      ∃ m, firstAnimated? taken v.entity.mesh.model = some m ∧
        ((f.build w a).value.1.palette.drop (k * max c.maxJoints 1)).take (max c.maxJoints 1) =
          (Skeleton.ofModel v.entity.mesh.model m (max c.maxJoints 1)).value.jointMatrices
            v.entity.playback.time

theorem Remembers.exists_firstAnimated? (ha : a.Remembers c taken) {name : String}
    {s : Skeleton Float32} (hs : a.skeletons.find? name = some s) :
    ∃ m, firstAnimated? taken name = some m ∧
      s = (Skeleton.ofModel name m (max c.maxJoints 1)).value := by
  rw [ha.skeletons] at hs
  obtain ⟨m, hm, rfl⟩ := Option.map_eq_some_iff.mp hs
  exact ⟨m, hm, rfl⟩

/-- After any loads and frames, a skeleton is that of the first animated model of its name, and the
model of that name is the last one. -/
theorem keepsFirst_run (c : RenderConfig) (steps : List AssetStep) :
    ((empty c).run steps).KeepsFirst c (AssetStep.taken steps) := by
  have ha := remembers_run c steps
  refine ⟨?_, ?_, ?_⟩
  · -- there is a skeleton under the names of animated models only
    intro name
    rw [ha.skeletons, Option.isSome_map, firstAnimated?_isSome_iff]
  · -- it is that of the first of them, and the model is the last of all
    intro name s hs
    obtain ⟨m, hm, hmade⟩ := ha.exists_firstAnimated? hs
    obtain ⟨before, after, htaken, rfl, hbefore⟩ := exists_split_of_firstAnimated? hm
    refine ⟨before, m, after, htaken, rfl, hbefore, hmade, ?_⟩
    rw [ha.models, htaken, latest?_append]
  · -- an entity's slot is posed by the skeleton that is found for it
    intro f w hf k v hv
    obtain ⟨s, hs, hpose⟩ := hf.isLimited.pose_of_placed hv
    obtain ⟨m, hm, rfl⟩ := ha.exists_firstAnimated? hs
    refine ⟨m, hm, ?_⟩
    rw [hf.keepsOnly.maxJoints] at hpose
    rw [Frame.palette_build, hpose, Skeleton.jointMatrices, Skeleton.maxJoints_ofModel]

/-- A document that says nothing. -/
def stillDocument : List String := ["\x7b\"asset\":\x7b\"version\":\"2.0\"\x7d\x7d"]

/-- A document with a skin of one joint. -/
def jointedDocument : List String :=
  ["\x7b\"asset\":\x7b\"version\":\"2.0\"\x7d,",
    "\"nodes\":[\x7b\x7d],\"skins\":[\x7b\"joints\":[0]\x7d]\x7d"]

/-- A model with a joint that is replaced by one without a skin leaves a skeleton with a bone. -/
theorem exists_skeleton_of_replaced_model :
    ¬∀ (c : RenderConfig) (steps : List AssetStep) name m s,
      ((empty c).run steps).models.find? name = some m →
      ((empty c).run steps).skeletons.find? name = some s →
        s = (Skeleton.ofModel name m (max c.maxJoints 1)).value := by
  intro h
  let load (document : List String) : AssetStep :=
    .load (.ofLines ⟨""⟩ "m.gltf" document) true
  let a := (empty {}).run [load jointedDocument, load stillDocument]
  have hmodel : (a.models.find? "m.gltf").map
      (fun m => (Skeleton.ofModel "m.gltf" m 20).value.bones.length) = some 0 := by decide +kernel
  have hskeleton : (a.skeletons.find? "m.gltf").map (·.bones.length) = some 1 := by decide +kernel
  -- The second document has no joint; the skeleton is still that of the first.
  obtain ⟨m, hm, hbones⟩ := Option.map_eq_some_iff.mp hmodel
  obtain ⟨s, hs, hbone⟩ := Option.map_eq_some_iff.mp hskeleton
  have hsame := h {} [load jointedDocument, load stillDocument] "m.gltf" m s hm hs
  rw [hsame] at hbone
  have : (0 : Nat) = 1 := hbones.symm.trans hbone
  cases this

end Assets

end SceneBatch
