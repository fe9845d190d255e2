import SceneBatch.Proofs.Texture.Loading

/-!
# Histories of assets

New assets of a configuration have models loaded into them, in any order and under any names, and
frames built from them. `Assets.Remembers` says what that comes to: under each name the model
loaded last, the skeleton of the model that was the first to be loaded with its animation, and the
source announced last for each texture. Every step preserves it, and building adds nothing to it
(`remembers_run`).
-/

namespace SceneBatch

/-! ### Steps -/

/-- Where a model is loaded from: a file, or bytes as if they were a file. -/
inductive ModelOrigin where
  | file (files : FileTree) (path : Path)
  | memory (files : FileTree) (name : String) (contents : Bytes) (directory : Path)

namespace ModelOrigin

/-- The model that is there. -/
def read : ModelOrigin → Except Fault Model
  | .file files path => Model.load files path
  | .memory files name contents directory => Model.loadBytes files name contents directory

/-- A document in memory, given by its lines. -/
def ofLines (directory : Path) (name : String) (lines : List String) : ModelOrigin :=
  .memory .empty name (lines.flatMap Bytes.ofText) directory

end ModelOrigin

/-- What assets go through: a model is loaded, with its animation or without, or a frame is
built. -/
inductive AssetStep where
  | load (origin : ModelOrigin) (isAnimated : Bool)
  | build (f : Frame) (w : World)

namespace AssetStep

/-- The model that a step takes in, and whether with its animation. -/
def taken? : AssetStep → Option (Model × Bool)
  | .load origin isAnimated => origin.read.toOption.map (·, isAnimated)
  | .build .. => none

/-- The models that steps take in, in their order. -/
def taken (steps : List AssetStep) : List (Model × Bool) := steps.filterMap taken?

end AssetStep

namespace Assets

/-- One step. -/
def step (a : Assets) : AssetStep → Assets
  | .load (.file files path) isAnimated => (a.load files path isAnimated).value.2
  | .load (.memory files name contents directory) isAnimated =>
    (a.loadBytes files name contents directory isAnimated).value.2
  | .build f w => (f.build w a).value.2

/-- All steps, one after the other. -/
def run (a : Assets) (steps : List AssetStep) : Assets := steps.foldl step a

/-- A step takes in a model, or does nothing but bind textures. -/
theorem step_cases (a : Assets) (s : AssetStep) :
    (∃ m isAnimated, s.taken? = some (m, isAnimated) ∧ a.step s = (a.add m isAnimated).value) ∨
      (s.taken? = none ∧ ∃ names, a.step s = { a with textures := a.textures.bindAll names }) := by
  -- a model that cannot be read is not taken in
  have hread : ∀ (isAnimated : Bool) (read : Except Fault Model),
      (∃ m, read = .ok m ∧ (a.addRead isAnimated read).value.2 = (a.add m isAnimated).value) ∨
        (read.toOption = none ∧ (a.addRead isAnimated read).value.2 = a) := by
    rintro isAnimated (fault | m)
    · exact .inr ⟨rfl, rfl⟩
    · exact .inl ⟨m, rfl, rfl⟩
  cases s with
  | load origin isAnimated =>
      have hstep : a.step (.load origin isAnimated) =
          (a.addRead isAnimated origin.read).value.2 := by
        -- files and memory differ only in how the model is read
        cases origin with
        | file files path => rw [step, load, ModelOrigin.read]
        | memory files name contents directory => rw [step, loadBytes, ModelOrigin.read]
      rw [hstep]
      rcases hread isAnimated origin.read with ⟨m, hm, hadd⟩ | ⟨hnone, hsame⟩
      · exact .inl ⟨m, isAnimated, by simp [AssetStep.taken?, hm, Except.toOption], hadd⟩
      · exact .inr ⟨by simp [AssetStep.taken?, hnone], [], hsame⟩
  | build f w =>
      refine .inr ⟨rfl, (f.drafted w a).batch.boundNames a.models, ?_⟩
      rw [step, Frame.build_value, (f.binds_drafted w a).textures]

end Assets

/-! ### Skeletons -/

theorem SkeletonLibrary.find?_add (l : SkeletonLibrary) (name : String) (m : Model)
    (key : String) :
    (l.add name m).value.2.find? key = (l.find? key).or
      (if key = name then some (Skeleton.ofModel name m l.maxJoints).value else none) := by
  cases hname : l.find? name with
  | some s =>
      -- A known name keeps its skeleton.
      rw [add_of_known (by rw [hname]; rfl)]
      by_cases hkey : key = name
      · rw [hkey, hname, Option.some_or]
      · rw [if_neg hkey, Option.or_none]
  | none =>
      rw [add_of_unknown hname]
      by_cases hkey : key = name
      · rw [hkey, hname, Option.none_or, if_pos rfl]
        exact List.lookup_cons_self
      · rw [if_neg hkey, Option.or_none]
        exact lookup_cons_of_ne hkey _ _

/-! ### Announcements -/

theorem TextureLibrary.find?_announceAll (l : TextureLibrary)
    (sources : List (String × TextureSource)) (name : String) :
    (sources.foldl Assets.listeners.announce l).find? name =
      (sources.reverse.lookup name).or (l.find? name) := by
  -- From the back, since the last announcement of a name is the one that stays.
  induction sources using List.reverseRecOn with
  | nil => rfl
  | append_singleton sources x ih =>
      obtain ⟨key, source⟩ := x
      rw [List.foldl_append, List.reverse_append, List.foldl_cons, List.foldl_nil]
      refine (find?_register _ key source name).trans ?_
      rw [ih, List.reverse_singleton, List.singleton_append]
      by_cases hname : name = key
      · simp [hname]
      · rw [if_neg hname, lookup_cons_of_ne hname]

/-! ### What a history comes to -/

/-- The model of a name that was taken in last. -/
def latest? (taken : List (Model × Bool)) (name : String) : Option Model :=
  (taken.reverse.find? fun x => x.1.name = name).map Prod.fst

/-- The model of a name that was the first to be taken in with its animation. -/
def firstAnimated? (taken : List (Model × Bool)) (name : String) : Option Model :=
  (taken.find? fun x => x.2 ∧ x.1.name = name).map Prod.fst

/-- What models that were taken in announced, in their order. -/
def announced (extension : String) (taken : List (Model × Bool)) :
    List (String × TextureSource) :=
  taken.flatMap fun x => x.1.textures extension

theorem latest?_concat (taken : List (Model × Bool)) (m : Model) (isAnimated : Bool)
    (name : String) :
    latest? (taken ++ [(m, isAnimated)]) name =
      if name = m.name then some m else latest? taken name := by
  by_cases hname : name = m.name
  · simp [latest?, hname]
  · simp [latest?, hname, Ne.symm hname]

theorem firstAnimated?_concat (taken : List (Model × Bool)) (m : Model) (isAnimated : Bool)
    (name : String) :
    firstAnimated? (taken ++ [(m, isAnimated)]) name =
      (firstAnimated? taken name).or
        (if isAnimated ∧ name = m.name then some m else none) := by
  rw [firstAnimated?, firstAnimated?, List.find?_append]
  cases taken.find? fun x => x.2 ∧ x.1.name = name with
  | some x => rfl
  | none =>
      cases isAnimated with
      | false => simp
      | true =>
          by_cases hname : name = m.name
          · simp [hname]
          · simp [hname, Ne.symm hname]

namespace Assets

variable {c : RenderConfig} {taken : List (Model × Bool)} {a : Assets}

/-- Assets of a configuration that models were taken in by. -/
structure Remembers (c : RenderConfig) (taken : List (Model × Bool)) (a : Assets) : Prop where
  extension : a.models.textureExtension = c.textureExtension
  maxJoints : a.skeletons.maxJoints = max c.maxJoints 1
  models : ∀ name, a.models.find? name = latest? taken name
  skeletons : ∀ name, a.skeletons.find? name =
    (firstAnimated? taken name).map fun m => (Skeleton.ofModel name m (max c.maxJoints 1)).value
  sources : ∀ name, a.textures.find? name = (announced c.textureExtension taken).reverse.lookup name

theorem remembers_empty (c : RenderConfig) : (empty c).Remembers c [] :=
  ⟨rfl, rfl, fun _ => rfl, fun _ => rfl, fun _ => rfl⟩

theorem skeletons_add (a : Assets) (m : Model) (isAnimated : Bool) :
    (a.add m isAnimated).value.skeletons =
      if isAnimated then (a.skeletons.add m.name m).value.2 else a.skeletons := by
  cases isAnimated <;> rfl

/-- A model that is taken in takes its name from the one before, leaves its skeleton, and announces
its textures. -/
theorem Remembers.add (ha : a.Remembers c taken) (m : Model) (isAnimated : Bool) :
    (a.add m isAnimated).value.Remembers c (taken ++ [(m, isAnimated)]) := by
  obtain ⟨htextures, hmodels⟩ := a.add_value m isAnimated
  have hskeletons := a.skeletons_add m isAnimated
  refine ⟨?_, ?_, ?_, ?_, ?_⟩
  · rw [hmodels]
    exact ha.extension
  · rw [hskeletons]
    split
    · exact (SkeletonLibrary.maxJoints_add m.name m).trans ha.maxJoints
    · exact ha.maxJoints
  · -- the last model of a name stands in the library
    intro name
    rw [hmodels, ModelLibrary.find?_insert, latest?_concat, ha.models]
  · -- the first animated model of a name keeps its skeleton
    intro name
    rw [hskeletons, firstAnimated?_concat]
    cases isAnimated with
    | false => simpa using ha.skeletons name
    | true =>
        simp only [if_true, true_and, SkeletonLibrary.find?_add, ha.skeletons, ha.maxJoints]
        cases firstAnimated? taken name with
        | some first => rfl
        | none =>
            by_cases hname : name = m.name
            · simp [hname]
            · simp [hname]
  · -- the last announcement of a name is the one that is found
    intro name
    rw [htextures, TextureLibrary.find?_announceAll, ha.sources, ha.extension]
    simp [announced, List.lookup_append]

theorem Remembers.bindAll (ha : a.Remembers c taken) (names : List String) :
    Remembers c taken { a with textures := a.textures.bindAll names } where
  extension := ha.extension
  maxJoints := ha.maxJoints
  models := ha.models
  skeletons := ha.skeletons
  sources name := (congrFun (a.textures.find?_bindAll names) name).trans (ha.sources name)

theorem Remembers.step (ha : a.Remembers c taken) (s : AssetStep) :
    (a.step s).Remembers c (taken ++ s.taken?.toList) := by
  rcases a.step_cases s with ⟨m, isAnimated, htaken, hstep⟩ | ⟨htaken, names, hstep⟩
  · rw [htaken, hstep]
    exact ha.add m isAnimated
  · rw [htaken, hstep, Option.toList_none, List.append_nil]
    exact ha.bindAll names

/-- New assets remember whatever steps took in. -/
theorem remembers_run (c : RenderConfig) (steps : List AssetStep) :
    ((empty c).run steps).Remembers c (AssetStep.taken steps) := by
  -- on the steps from behind: the last one finds assets that remember those before it
  induction steps using List.reverseRecOn with
  | nil => exact remembers_empty c
  | append_singleton steps s ih =>
      have hrun : (empty c).run (steps ++ [s]) = ((empty c).run steps).step s :=
        List.foldl_concat step (empty c) s steps
      have htaken : AssetStep.taken (steps ++ [s]) = AssetStep.taken steps ++ s.taken?.toList := by
        rw [AssetStep.taken, List.filterMap_append]
        cases h : s.taken? <;> simp [h, AssetStep.taken]
      rw [hrun, htaken]
      exact ih.step s

end Assets

end SceneBatch
