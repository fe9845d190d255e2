import SceneBatch.Proofs.Frame.Loads
import SceneBatch.Proofs.Texture.Layers

/-!
# Taking models in

A model that is loaded concerns three stores: the models, the textures and the skeletons. Whatever
can go wrong goes wrong before the first of them is touched (`ModelOrigin.Refuses`), so a model that
cannot be read leaves no trace in any of them, and one that can be read is received by all three
(`Assets.Receives`, `takesWholly_take`). What becomes of its animation does not matter to the load.
-/

namespace SceneBatch

/-! ### Reading a model -/

namespace ModelOrigin

/-- The path of a model. Its extension tells the format, and its directory is where the files are
that a document refers to. -/
def path : ModelOrigin → Path
  | .file _ path => path
  | .memory _ name _ directory => directory.join name

/-- The name that a model is known by. -/
def name? : ModelOrigin → Option String
  | .file _ path => path.fileName?
  | .memory _ name _ _ => some name

/-- The files that a document may refer to. -/
def files : ModelOrigin → FileTree
  | .file files _ => files
  | .memory files _ _ _ => files

/-- The bytes of a model. -/
def contents : ModelOrigin → Except FileFault Bytes
  | .file files path => files.read path
  | .memory _ _ contents _ => .ok contents

variable {o : ModelOrigin} {m : Model} {fault : Fault}

/-- Why a model cannot be read: the first of these that is wrong. -/
inductive Refuses (o : ModelOrigin) : Fault → Prop
  | unsupported (hformat : ∀ format, ModelFormat.ofPath o.path ≠ .ok format) :
      Refuses o (.unsupportedFormat o.path.text)
  | nameless {format : ModelFormat} (hformat : ModelFormat.ofPath o.path = .ok format)
      (hname : o.name? = none) : Refuses o (.importing (.badPath o.path.text))
  | unreadable {format : ModelFormat} {name : String} {cause : FileFault}
      (hformat : ModelFormat.ofPath o.path = .ok format) (hname : o.name? = some name)
      (hcontents : o.contents = .error cause) : Refuses o (.file cause)
  | headless {name : String} {bytes : Bytes} (hformat : ModelFormat.ofPath o.path = .ok .binary)
      (hname : o.name? = some name) (hcontents : o.contents = .ok bytes)
      (hstart : ¬Gltf.Container.starts bytes) :
      Refuses o (.importing (.notBinaryContainer o.path.text))
  | flawed {format : ModelFormat} {name : String} {bytes : Bytes} {flaw : ModelFlaw}
      (hformat : ModelFormat.ofPath o.path = .ok format) (hname : o.name? = some name)
      (hcontents : o.contents = .ok bytes)
      (hstart : format = .binary → Gltf.Container.starts bytes)
      (hasset : Gltf.Asset.ofBytes o.files o.path.parent bytes = .error flaw) :
      Refuses o (.importing (.flawed o.path.text flaw))

/-- A model is what its bytes and the files beside it make it, and nothing is wrong with them. -/
inductive Gives (o : ModelOrigin) (m : Model) : Prop
  | read {format : ModelFormat} {bytes : Bytes} (hformat : ModelFormat.ofPath o.path = .ok format)
      (hname : o.name? = some m.name) (hpath : m.path = o.path)
      (hcontents : o.contents = .ok bytes)
      (hstart : format = .binary → Gltf.Container.starts bytes)
      (hasset : Gltf.Asset.ofBytes o.files o.path.parent bytes = .ok m.asset)

/-- A file and bytes in memory are read by the same steps. -/
theorem read_eq (o : ModelOrigin) :
    o.read = (do
      let format ← ModelFormat.ofPath o.path
      match o.name? with
      | none => throw (.importing (.badPath o.path.text))
      | some name =>
        match o.contents with
        | .error cause => throw (.file cause)
        | .ok bytes => Model.ofBytes o.files name bytes format o.path) := by
  cases o <;> rfl

theorem ofPath_eq_error {p : Path} (h : ModelFormat.ofPath p = .error fault) :
    fault = .unsupportedFormat p.text := by
  unfold ModelFormat.ofPath at h
  split at h
  · cases h
  · cases h
  · cases h
    rfl

/-- A model is read, or something is wrong. -/
theorem read_cases (o : ModelOrigin) :
    (∃ m, o.read = .ok m ∧ o.Gives m) ∨ ∃ fault, o.read = .error fault ∧ o.Refuses fault := by
  -- the faults, in the order in which they are looked for
  rw [read_eq]
  cases hformat : ModelFormat.ofPath o.path with
  | error fault =>
      cases ofPath_eq_error hformat
      refine .inr ⟨_, rfl, .unsupported ?_⟩
      intro format hok
      cases hformat.symm.trans hok
  | ok format =>
      dsimp only [bind, Except.bind]
      cases hname : o.name? with
      | none => exact .inr ⟨_, rfl, .nameless hformat hname⟩
      | some name =>
          cases hcontents : o.contents with
          | error cause => exact .inr ⟨_, rfl, .unreadable hformat hname hcontents⟩
          | ok bytes =>
              dsimp only
              rw [Model.ofBytes]
              -- only a name of the binary format calls for the start of a container
              by_cases hstart : format = .binary ∧ ¬Gltf.Container.starts bytes
              · rw [if_pos hstart]
                obtain ⟨rfl, hstart⟩ := hstart
                exact .inr ⟨_, rfl, .headless hformat hname hcontents hstart⟩
              · rw [if_neg hstart]
                have hstarts : format = .binary → Gltf.Container.starts bytes := by
                  intro hbinary
                  by_contra hnot
                  exact hstart ⟨hbinary, hnot⟩
                cases hasset : Gltf.Asset.ofBytes o.files o.path.parent bytes with
                | error flaw => exact .inr ⟨_, rfl, .flawed hformat hname hcontents hstarts hasset⟩
                | ok asset =>
                    exact .inl ⟨_, rfl, .read hformat hname rfl hcontents hstarts hasset⟩

theorem Gives.read_eq_ok (h : o.Gives m) : o.read = .ok m := by
  obtain ⟨hformat, hname, hpath, hcontents, hstart, hasset⟩ := h
  rw [read_eq, hformat]
  dsimp only [bind, Except.bind]
  rw [hname, hcontents]
  dsimp only
  rw [Model.ofBytes, if_neg (by tauto), hasset, ← hpath]

theorem Refuses.read_eq_error (h : o.Refuses fault) : o.read = .error fault := by
  -- each reason says that the steps before it succeed
  rw [read_eq]
  cases h with
  | unsupported hformat =>
      cases hcase : ModelFormat.ofPath o.path with
      | error fault =>
          cases ofPath_eq_error hcase
          rfl
      | ok format => exact absurd hcase (hformat format)
  | nameless hformat hname =>
      rw [hformat, hname]
      rfl
  | unreadable hformat hname hcontents =>
      rw [hformat, hname, hcontents]
      rfl
  | headless hformat hname hcontents hstart =>
      rw [hformat, hname, hcontents]
      exact if_pos ⟨rfl, hstart⟩
  | flawed hformat hname hcontents hstart hasset =>
      rw [hformat, hname, hcontents]
      dsimp only [bind, Except.bind]
      rw [Model.ofBytes, if_neg (by tauto), hasset]

theorem read_eq_ok_iff : o.read = .ok m ↔ o.Gives m := by
  constructor
  · intro h
    rcases o.read_cases with ⟨m', hread, hgives⟩ | ⟨fault, hread, -⟩
    · cases hread.symm.trans h
      exact hgives
    · cases hread.symm.trans h
  · exact Gives.read_eq_ok

theorem read_eq_error_iff : o.read = .error fault ↔ o.Refuses fault := by
  constructor
  · intro h
    rcases o.read_cases with ⟨m, hread, -⟩ | ⟨fault', hread, hrefuses⟩
    · cases hread.symm.trans h
    · cases hread.symm.trans h
      exact hrefuses
  · exact Refuses.read_eq_error

end ModelOrigin

/-! ### The stores -/

/-- The image at a place is the last one of the document that has a certain name. -/
structure Model.IsLastNamed (m : Model) (name : String) (place : Nat) (i : Gltf.Image) : Prop where
  image : m.document.images[place]? = some i
  isNamed : m.textureName place i = name
  last : ∀ (later : Nat) k, m.document.images[later]? = some k →
    m.textureName later k = name → later ≤ place

namespace TextureLibrary

/-- Announcements leave the units with what they have. -/
theorem bound?_announceAll (l : TextureLibrary) (sources : List (String × TextureSource))
    (unit : Nat) : (sources.foldl Assets.listeners.announce l).bound? unit = l.bound? unit := by
  induction sources generalizing l with
  | nil => rfl
  | cons x xs ih => exact (ih (l.register x.1 x.2)).trans (l.bound?_register x.1 x.2 unit)

theorem layerSize_announceAll (l : TextureLibrary) (sources : List (String × TextureSource)) :
    (sources.foldl Assets.listeners.announce l).layerSize = l.layerSize := by
  induction sources generalizing l with
  | nil => rfl
  | cons x xs ih => exact ih (l.register x.1 x.2)

/-- Of the images that have one name, the last one is found. -/
theorem find?_announce_textures (l : TextureLibrary) {m : Model} {name : String}
    (h : name ∈ m.textureNames) (extension : String) :
    ∃ place i, m.IsLastNamed name place i ∧
      ((m.textures extension).foldl Assets.listeners.announce l).find? name =
        some (m.ownSource extension place i) := by
  have hmem : name ∈ ((m.textures extension).reverse).map Prod.fst := by
    rw [List.map_reverse, m.map_fst_textures, List.mem_reverse]
    exact h
  obtain ⟨source, hsource⟩ := Option.isSome_iff_exists.mp (lookup_isSome_iff_mem.mpr hmem)
  -- later announcements are found first, so it is the last of the name
  obtain ⟨place, hplace, hlater⟩ := exists_last_of_lookup_reverse hsource
  -- announcements and images stand at the same places
  obtain ⟨i, hi⟩ : ∃ i, m.document.images[place]? = some i := by
    obtain ⟨x, hx, -⟩ := Option.map_eq_some_iff.mp ((List.getElem?_map ..).symm.trans hplace)
    obtain ⟨i, hi, -⟩ := Option.map_eq_some_iff.mp ((List.getElem?_zipIdx ..).symm.trans hx)
    exact ⟨i, hi⟩
  have hfound := (Model.getElem?_textures hi extension).symm.trans hplace
  simp only [Option.some.injEq, Prod.mk.injEq] at hfound
  obtain ⟨rfl, rfl⟩ := hfound
  refine ⟨place, i, ⟨hi, rfl, ?_⟩, ?_⟩
  · intro later k hk hname
    by_contra hlt
    exact hlater later _ (Nat.lt_of_not_le hlt) (Model.getElem?_textures hk extension) hname
  · rw [find?_announceAll, hsource]
    rfl

theorem find?_announce_textures_of_notMem (l : TextureLibrary) {m : Model} {name : String}
    (h : name ∉ m.textureNames) (extension : String) :
    ((m.textures extension).foldl Assets.listeners.announce l).find? name = l.find? name := by
  have hnone : (m.textures extension).reverse.lookup name = none := by
    rw [← Option.not_isSome_iff_eq_none, lookup_isSome_iff_mem, List.map_reverse,
      m.map_fst_textures, List.mem_reverse]
    exact h
  rw [find?_announceAll, hnone, Option.none_or]

end TextureLibrary

/-! ### Taking a model in -/

namespace Assets

/-- Load a model. -/
def take (a : Assets) (o : ModelOrigin) (isAnimated : Bool) : Except Fault String × Assets :=
  match o with
  | .file files path => (a.load files path isAnimated).value
  | .memory files name contents directory =>
    (a.loadBytes files name contents directory isAnimated).value

theorem take_eq (a : Assets) (o : ModelOrigin) (isAnimated : Bool) :
    a.take o isAnimated = (a.addRead isAnimated o.read).value := by
  cases o <;> rfl

/-- What the stores make of a model. It takes its name from the model that had it; its images are
announced under their names, the last one where several have the same; and its skeleton is made if
it is animated and there is none under its name. All else stays: other models, other textures and
what units are bound to, other skeletons. -/
structure Receives (a : Assets) (m : Model) (isAnimated : Bool) (a' : Assets) : Prop where
  models : ∀ name, a'.models.find? name = if name = m.name then some m else a.models.find? name
  extension : a'.models.textureExtension = a.models.textureExtension
  announced : ∀ name ∈ m.textureNames, ∃ place i, m.IsLastNamed name place i ∧
    a'.textures.find? name = some (m.ownSource a.models.textureExtension place i)
  textures : ∀ name ∉ m.textureNames, a'.textures.find? name = a.textures.find? name
  bound : ∀ unit, a'.textures.bound? unit = a.textures.bound? unit
  units : a'.textures.units.length = a.textures.units.length
  layerSize : a'.textures.layerSize = a.textures.layerSize
  skeletons : ¬(isAnimated = true ∧ a.skeletons.find? m.name = none) → a'.skeletons = a.skeletons
  skeleton : isAnimated = true → a.skeletons.find? m.name = none →
    a'.skeletons.size = a.skeletons.size + 1 ∧ a'.skeletons.maxJoints = a.skeletons.maxJoints ∧
      ∀ name, a'.skeletons.find? name =
        if name = m.name then some (Skeleton.ofModel m.name m a.skeletons.maxJoints).value
        else a.skeletons.find? name

theorem receives_add (a : Assets) (m : Model) (isAnimated : Bool) :
    a.Receives m isAnimated (a.add m isAnimated).value := by
  obtain ⟨htextures, hmodels⟩ := a.add_value m isAnimated
  have hskeletons := a.skeletons_add m isAnimated
  constructor
  case models =>
    intro name
    rw [hmodels]
    exact a.models.find?_insert m name
  case extension => rw [hmodels]; rfl
  case announced =>
    intro name hname
    rw [htextures]
    exact a.textures.find?_announce_textures hname _
  case textures =>
    intro name hname
    rw [htextures]
    exact a.textures.find?_announce_textures_of_notMem hname _
  case bound =>
    intro unit
    rw [htextures]
    exact a.textures.bound?_announceAll _ unit
  case units =>
    rw [htextures]
    exact (a.textures.grows_announceAll _).1.units
  case layerSize =>
    rw [htextures]
    exact a.textures.layerSize_announceAll _
  case skeletons =>
    intro hno
    rw [hskeletons]
    split
    · next hanimated =>
        -- a skeleton under the name is left alone
        have hknown : (a.skeletons.find? m.name).isSome := by
          rw [Option.isSome_iff_ne_none]
          exact fun hnone => hno ⟨hanimated, hnone⟩
        rw [SkeletonLibrary.add_of_known hknown]
    · rfl
  case skeleton =>
    intro hanimated hnone
    rw [hskeletons, if_pos hanimated, SkeletonLibrary.add_of_unknown hnone]
    refine ⟨List.length_cons, rfl, ?_⟩
    intro name
    -- the new skeleton is the only one that is found anew
    by_cases hname : name = m.name
    · rw [hname, if_pos rfl]
      exact List.lookup_cons_self
    · rw [if_neg hname]
      exact lookup_cons_of_ne hname _ _

/-- A load changes all three stores or none. It fails exactly if something is wrong with the model,
and then it changes nothing; otherwise it answers with the name of the model, which the stores have
received. -/
structure TakesWholly (a : Assets) (o : ModelOrigin) (isAnimated : Bool) : Prop where
  fails : ∀ fault, (a.take o isAnimated).1 = .error fault ↔ o.Refuses fault
  unchanged : ∀ fault, (a.take o isAnimated).1 = .error fault → (a.take o isAnimated).2 = a
  received : ∀ name, (a.take o isAnimated).1 = .ok name →
    ∃ m, o.Gives m ∧ m.name = name ∧ a.Receives m isAnimated (a.take o isAnimated).2
  answers : ∀ m, o.Gives m → (a.take o isAnimated).1 = .ok m.name

/-- Whatever is loaded into whatever assets, it is taken in wholly or not at all. -/
theorem takesWholly_take (a : Assets) (o : ModelOrigin) (isAnimated : Bool) :
    a.TakesWholly o isAnimated := by
  cases hread : o.read with
  | ok m =>
      -- the model is read, so nothing is wrong with it and the stores receive it
      have htake : a.take o isAnimated = (.ok m.name, (a.add m isAnimated).value) := by
        rw [take_eq, hread]
        rfl
      refine ⟨?_, ?_, ?_, ?_⟩
      · intro fault
        rw [htake, ← ModelOrigin.read_eq_error_iff, hread]
        constructor
        · intro h
          cases h
        · intro h
          cases h
      · intro fault h
        rw [htake] at h
        cases h
      · intro name h
        rw [htake] at h ⊢
        cases h
        exact ⟨m, ModelOrigin.read_eq_ok_iff.mp hread, rfl, a.receives_add m isAnimated⟩
      · intro m' hgives
        cases hread.symm.trans (ModelOrigin.read_eq_ok_iff.mpr hgives)
        rw [htake]
  | error fault =>
      -- the model is not read, and the stores are not told
      have htake : a.take o isAnimated = (.error fault, a) := by
        rw [take_eq, hread]
        rfl
      refine ⟨?_, ?_, ?_, ?_⟩
      · intro fault'
        rw [htake, ← ModelOrigin.read_eq_error_iff, hread, Except.error.injEq, Except.error.injEq]
      · intro _ _
        rw [htake]
      · intro name h
        rw [htake] at h
        cases h
      · intro m hgives
        cases hread.symm.trans (ModelOrigin.read_eq_ok_iff.mpr hgives)

/-- A bare document is taken in under a name of the text format, and refused under one of the binary
format, as it does not start like a container. -/
theorem takesWholly_of_bare_document :
    let bare := ["\x7b\"asset\":\x7b\"version\":\"2.0\"\x7d\x7d"]
    let text := ModelOrigin.ofLines ⟨"a"⟩ "m.gltf" bare
    let binary := ModelOrigin.ofLines ⟨"a"⟩ "m.glb" bare
    (∃ m, text.Gives m ∧ m.name = "m.gltf") ∧
      binary.Refuses (.importing (.notBinaryContainer "a/m.glb")) ∧
      (empty {}).TakesWholly text true ∧ (empty {}).TakesWholly binary true := by
  intro bare text binary
  -- the text is read in full, which tells the name of the model
  have hname : text.read.toOption.map (·.name) = some "m.gltf" := by decide +kernel
  have hformat : ModelFormat.ofPath binary.path = .ok .binary := by decide +kernel
  have hstart : ¬Gltf.Container.starts (bare.flatMap Bytes.ofText) := by decide +kernel
  have hpath : binary.path.text = "a/m.glb" := by decide +kernel
  have hrefuses : binary.Refuses (.importing (.notBinaryContainer "a/m.glb")) := by
    rw [← hpath]
    exact .headless hformat rfl rfl hstart
  refine ⟨?_, hrefuses, takesWholly_take (empty {}) text true,
    takesWholly_take (empty {}) binary true⟩
  cases hread : text.read with
  | ok m =>
      rw [hread] at hname
      exact ⟨m, ModelOrigin.read_eq_ok_iff.mp hread, Option.some.inj hname⟩
  | error fault =>
      rw [hread] at hname
      cases hname

end Assets

end SceneBatch
