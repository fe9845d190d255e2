import SceneBatch.Frame.Assets
import SceneBatch.Proofs.Batch.Calls

/-!
# Assets of a configuration

A skeleton gives as many joint matrices as it is asked for (`length_writeJointMatrices`). All
skeletons of a library pose the number of joints that the library was made for, whatever models
they come from. So do the skeletons of assets that were made for a configuration and then filled,
emptied and filled again (`Assets.MadeFor.maxJoints_of_find?`).
-/

namespace SceneBatch

namespace Skeleton

/-! ### Joint matrices -/

theorem length_globalsFrom {α : Type} [Scalar α] (time : α) (count : Nat) (done : List (Mat4 α))
    (bones : List (Bone α)) :
    (globalsFrom time count done bones).length = done.length + bones.length := by
  induction bones generalizing done with
  | nil => rfl
  | cons b bs ih =>
      rw [globalsFrom, ih, List.length_append, List.length_singleton, List.length_cons]
      omega

theorem length_writeJointMatrices {α : Type} [Scalar α] (s : Skeleton α) (time : α)
    (length : Nat) : (s.writeJointMatrices time length).length = length := by
  simp only [writeJointMatrices, List.length_append, List.length_zipWith, length_globalsFrom,
    List.length_replicate, List.length_take, List.length_nil]
  omega

/-! ### Skeletons of models -/

theorem maxJoints_addChannel (a : Gltf.Asset) (clip : Gltf.Clip) (s : Skeleton Float32)
    (c : Gltf.Channel) : (addChannel a clip s c).value.maxJoints = s.maxJoints := by
  unfold addChannel
  split
  · split
    · rfl
    · rw [Logged.bind_value]
      split
      · rfl
      · rfl
  · rfl

theorem maxJoints_addChannels (a : Gltf.Asset) (clip : Gltf.Clip) (channels : List Gltf.Channel)
    (s : Skeleton Float32) :
    (channels.foldlM (addChannel a clip) s).value.maxJoints = s.maxJoints := by
  induction channels generalizing s with
  | nil => rfl
  | cons c cs ih => rw [List.foldlM_cons, Logged.bind_value, ih, maxJoints_addChannel]

/-- The skeleton of a model poses as many joints as it was asked to. -/
theorem maxJoints_ofModel (name : String) (m : Model) (maxJoints : Nat) :
    (ofModel name m maxJoints).value.maxJoints = maxJoints := by
  unfold ofModel
  dsimp only
  split
  · rfl
  · -- the log does not matter
    simp only [apply_ite Logged.value, Logged.bind_value, ite_self]
    split
    · rfl
    · rw [maxJoints_addChannels]

end Skeleton

/-! ### Libraries -/

namespace SkeletonLibrary

/-- Each skeleton poses as many joints as the library says. -/
def IsUniform (l : SkeletonLibrary) : Prop := ∀ x ∈ l.skeletons, x.2.maxJoints = l.maxJoints

variable {l : SkeletonLibrary}

/-- A skeleton stays. -/
theorem add_of_known {name : String} (h : (l.find? name).isSome) (m : Model) :
    (l.add name m).value = (false, l) := by
  have hknown : l.contains name = true := h
  rw [add, if_pos hknown]
  rfl

theorem add_of_unknown {name : String} (h : l.find? name = none) (m : Model) :
    (l.add name m).value = (true,
      { l with
        skeletons := (name, (Skeleton.ofModel name m l.maxJoints).value) :: l.skeletons }) := by
  have hknown : ¬l.contains name = true := by simp [contains, h]
  rw [add, if_neg hknown]
  rfl

theorem maxJoints_add (name : String) (m : Model) :
    (l.add name m).value.2.maxJoints = l.maxJoints := by
  unfold add
  split
  · rfl
  · rfl

theorem IsUniform.add (hl : l.IsUniform) (name : String) (m : Model) :
    (l.add name m).value.2.IsUniform := by
  unfold SkeletonLibrary.add
  split
  · exact hl
  · intro x hx
    rcases List.mem_cons.mp hx with rfl | hx
    · exact Skeleton.maxJoints_ofModel name m l.maxJoints
    · exact hl x hx

theorem IsUniform.maxJoints_of_find? (hl : l.IsUniform) {name : String} {s : Skeleton Float32}
    (h : l.find? name = some s) : s.maxJoints = l.maxJoints := by
  obtain ⟨before, after, hsplit, -⟩ := List.lookup_eq_some_iff.mp h
  apply hl (name, s)
  rw [hsplit]
  exact List.mem_append_right _ List.mem_cons_self

end SkeletonLibrary

/-! ### Assets -/

namespace Assets

/-- Assets that were made for a configuration, filled, emptied and filled again. Models and textures
may be exchanged as one likes. -/
inductive MadeFor (c : RenderConfig) : Assets → Prop
  | empty : MadeFor c (.empty c)
  | loaded {a : Assets} (ha : MadeFor c a) (files : FileTree) (path : Path) (isAnimated : Bool) :
      MadeFor c (a.load files path isAnimated).value.2
  | loadedBytes {a : Assets} (ha : MadeFor c a) (files : FileTree) (name : String) (bytes : Bytes)
      (directory : Path) (isAnimated : Bool) :
      MadeFor c (a.loadBytes files name bytes directory isAnimated).value.2
  | posed {a : Assets} (ha : MadeFor c a) (name : String) (m : Model) :
      MadeFor c { a with skeletons := (a.skeletons.add name m).value.2 }
  | cleared {a : Assets} (ha : MadeFor c a) :
      MadeFor c { a with skeletons := a.skeletons.clear }
  | exchanged {a : Assets} (ha : MadeFor c a) (models : ModelLibrary) (textures : TextureLibrary) :
      MadeFor c { a with models, textures }

variable {c : RenderConfig} {a : Assets}

/-- Taking in a model adds at most its skeleton. -/
theorem skeletons_addRead (a : Assets) (isAnimated : Bool) (read : Except Fault Model) :
    (a.addRead isAnimated read).value.2.skeletons = a.skeletons ∨
      ∃ name m, (a.addRead isAnimated read).value.2.skeletons =
        (a.skeletons.add name m).value.2 := by
  cases read with
  | error fault => exact .inl rfl
  | ok m =>
      cases isAnimated with
      | false => exact .inl rfl
      | true => exact .inr ⟨m.name, m, rfl⟩

theorem MadeFor.isUniform (ha : a.MadeFor c) :
    a.skeletons.maxJoints = max c.maxJoints 1 ∧ a.skeletons.IsUniform := by
  -- all that a model can do to a uniform library is to add a skeleton to it
  have hread : ∀ (a : Assets) (isAnimated : Bool) (read : Except Fault Model),
      a.skeletons.maxJoints = max c.maxJoints 1 ∧ a.skeletons.IsUniform →
      (a.addRead isAnimated read).value.2.skeletons.maxJoints = max c.maxJoints 1 ∧
        (a.addRead isAnimated read).value.2.skeletons.IsUniform := by
    rintro a isAnimated read ⟨hmaxJoints, huniform⟩
    rcases skeletons_addRead a isAnimated read with h | ⟨name, m, h⟩
    · rw [h]
      exact ⟨hmaxJoints, huniform⟩
    · rw [h]
      exact ⟨(SkeletonLibrary.maxJoints_add name m).trans hmaxJoints, huniform.add name m⟩
  induction ha with
  | empty =>
      refine ⟨rfl, ?_⟩
      intro x hx
      cases hx
  | loaded _ files path isAnimated ih =>
      rw [load]
      exact hread _ isAnimated _ ih
  | loadedBytes _ files name bytes directory isAnimated ih =>
      rw [loadBytes]
      exact hread _ isAnimated _ ih
  | posed _ name m ih => exact ⟨(SkeletonLibrary.maxJoints_add name m).trans ih.1, ih.2.add name m⟩
  | cleared _ ih =>
      refine ⟨ih.1, ?_⟩
      intro x hx
      cases hx
  | exchanged _ models textures ih => exact ih

/-- The skeletons of a configuration pose as many joints as it allows. -/
theorem MadeFor.maxJoints_of_find? (ha : a.MadeFor c) (hc : 1 ≤ c.maxJoints) {name : String}
    {s : Skeleton Float32} (h : a.skeletons.find? name = some s) : s.maxJoints = c.maxJoints := by
  obtain ⟨hmaxJoints, huniform⟩ := ha.isUniform
  rw [huniform.maxJoints_of_find? h, hmaxJoints]
  exact Nat.max_eq_left hc

end Assets

end SceneBatch
