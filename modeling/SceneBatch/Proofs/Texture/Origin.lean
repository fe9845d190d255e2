import SceneBatch.Proofs.Frame.Loads
import SceneBatch.Proofs.Frame.Units

/-!
# Origins of a frame's textures

The texture of an entry that has a unit is the image that the entry's mesh chooses from its model's
own document. It is looked up by its name, and names are shared: a later image of the same document,
and every image of a model that is taken in later, may be announced under the same name. The last
announcement counts, so the source is the model's own one exactly as long as there was none
(`Frame.ShowsAnnounced`, `showsAnnounced_build`). Models that were taken in before make no
difference, but a model of another directory that is taken in later does
(`exists_source_of_other_directory`).
-/

namespace SceneBatch

open Batch

/-! ### Announcements under one name -/

/-- The last model of a name, between what was taken in before and after it. -/
theorem exists_split_of_latest? {taken : List (Model × Bool)} {name : String} {m : Model}
    (h : latest? taken name = some m) :
    ∃ before isAnimated after, taken = before ++ (m, isAnimated) :: after ∧ m.name = name ∧
      ∀ x ∈ after, x.1.name ≠ name := by
  obtain ⟨⟨m', isAnimated⟩, hfound, rfl⟩ := Option.map_eq_some_iff.mp h
  obtain ⟨hname, before, after, hsplit, hbefore⟩ := List.find?_eq_some_iff_append.mp hfound
  refine ⟨after.reverse, isAnimated, before.reverse, ?_, by simpa using hname, ?_⟩
  · rw [← List.reverse_reverse taken, hsplit]
    simp
  · intro x hx
    simpa using hbefore x (List.mem_reverse.mp hx)

namespace Model

/-- What was announced after an image of a model: the images behind it in the document, and those
of the models that were taken in after the model. -/
def announcedAfter (m : Model) (extension : String) (place : Nat) (after : List (Model × Bool)) :
    List (String × TextureSource) :=
  (m.textures extension).drop (place + 1) ++ announced extension after

/-- The source under an image's name is its own, unless that name was announced after it. -/
theorem lookup_announced {m : Model} {place : Nat} {i : Gltf.Image}
    (h : m.document.images[place]? = some i) (extension : String)
    (before after : List (Model × Bool)) (isAnimated : Bool) :
    (announced extension (before ++ (m, isAnimated) :: after)).reverse.lookup
        (m.textureName place i) =
      some (((m.announcedAfter extension place after).reverse.lookup (m.textureName place i)).getD
        (m.ownSource extension place i)) := by
  have hplace := getElem?_textures h extension
  -- cut the announcements at the image
  have hcut : announced extension (before ++ (m, isAnimated) :: after) =
      (announced extension before ++ (m.textures extension).take place) ++
        (m.textureName place i, m.ownSource extension place i) ::
          m.announcedAfter extension place after := by
    obtain ⟨hlt, hget⟩ := List.getElem?_eq_some_iff.mp hplace
    have hsplit := List.take_append_drop place (m.textures extension)
    rw [List.drop_eq_getElem_cons hlt, hget] at hsplit
    calc announced extension (before ++ (m, isAnimated) :: after)
      _ = announced extension before ++ (m.textures extension ++ announced extension after) := by
          simp [announced]
      _ = announced extension before ++ ((m.textures extension).take place ++
            (m.textureName place i, m.ownSource extension place i) ::
              (m.textures extension).drop (place + 1) ++ announced extension after) := by
          rw [hsplit]
      _ = _ := by simp [announcedAfter]
  rw [hcut, List.reverse_append, List.reverse_cons, List.lookup_append, List.lookup_append]
  cases (m.announcedAfter extension place after).reverse.lookup (m.textureName place i) with
  | some source => rfl
  | none => simp

end Model

/-! ### The textures of a frame -/

namespace Frame

/-- Each entry of a frame that has a unit is drawn with the image that its node chooses in its
model, the last one of that name that was taken in. The image's source is the model's own, unless
another image was announced later under its name: then it is the last such image's. -/
def ShowsAnnounced (g : Frame) (c : RenderConfig) (taken : List (Model × Bool))
    (textures : TextureLibrary) : Prop :=
  ∀ (place : Nat) e unit, g.batch.entries[place]? = some e →
    g.batch.registry.material? place = some unit →
    ∃ before m isAnimated after image i,
      taken = before ++ (m, isAnimated) :: after ∧ m.name = e.key.model ∧
      (∀ x ∈ after, x.1.name ≠ e.key.model) ∧
      m.nodeImage? e.key.node = some (image, i) ∧
      textures.bound? unit = some (m.textureName image i) ∧
      textures.find? (m.textureName image i) =
        some (((m.announcedAfter c.textureExtension image after).reverse.lookup
          (m.textureName image i)).getD (m.ownSource c.textureExtension image i))

theorem showsAnnounced_of_remembers {c : RenderConfig} {taken : List (Model × Bool)} {a : Assets}
    (ha : a.Remembers c taken) (f : Frame) (w : World) :
    (f.build w a).value.1.ShowsAnnounced c taken (f.build w a).value.2.textures := by
  have hbinds := f.binds_drafted w a
  rw [build_value]
  intro place e unit he hunit
  obtain ⟨-, name, hcolor, hbound⟩ := hbinds.bound?_eq he hunit
  obtain ⟨m, image, i, hm, himage, rfl⟩ := exists_nodeImage? hcolor
  rw [ha.models] at hm
  obtain ⟨before, isAnimated, after, htaken, hname, hafter⟩ := exists_split_of_latest? hm
  refine ⟨before, m, isAnimated, after, image, i, htaken, hname, hafter, himage, hbound, ?_⟩
  -- binding leaves the sources as the loads left them
  have hfind : (f.drafted w a).textures.find? = a.textures.find? := by
    rw [hbinds.textures, TextureLibrary.find?_bindAll]
  show (f.drafted w a).textures.find? (m.textureName image i) = _
  rw [hfind, ha.sources, htaken, Model.lookup_announced (Model.getElem?_of_nodeImage? himage)]

/-- Every frame that is built after any loads. -/
theorem showsAnnounced_build (c : RenderConfig) (steps : List AssetStep) (f : Frame) (w : World) :
    (f.build w ((Assets.empty c).run steps)).value.1.ShowsAnnounced c (AssetStep.taken steps)
      (f.build w ((Assets.empty c).run steps)).value.2.textures :=
  showsAnnounced_of_remembers (Assets.remembers_run c steps) f w

/-! ### A redirected texture -/

/-- A document with a triangle and an image that is its base color. -/
def paintedDocument : List String :=
  ["\x7b\"asset\":\x7b\"version\":\"2.0\"\x7d,\"buffers\":[\x7b\"byteLength\":36\x7d],",
    "\"bufferViews\":[\x7b\"buffer\":0,\"byteLength\":36\x7d],",
    "\"accessors\":[\x7b\"bufferView\":0,\"componentType\":5126,\"count\":3,",
    "\"type\":\"VEC3\",\"min\":[0,0,0],\"max\":[0,0,0]\x7d],",
    "\"images\":[\x7b\"uri\":\"x_baseColor.png\"\x7d],\"textures\":[\x7b\"source\":0\x7d],",
    "\"meshes\":[\x7b\"primitives\":[\x7b\"attributes\":\x7b\"POSITION\":0\x7d\x7d]\x7d],",
    "\"nodes\":[\x7b\"mesh\":0\x7d],\"scenes\":[\x7b\"nodes\":[0]\x7d],\"scene\":0\x7d"]

/-- A document with an image of the same name, and nothing else. -/
def imageDocument : List String :=
  ["\x7b\"asset\":\x7b\"version\":\"2.0\"\x7d,",
    "\"images\":[\x7b\"uri\":\"x_baseColor.png\"\x7d]\x7d"]

/-- The two documents are loaded from two directories. -/
def loadsFromTwoDirectories : List AssetStep :=
  [.load (.memory .empty "m.glb" (Gltf.Container.toBytes
      ⟨paintedDocument.flatMap Bytes.ofText, some (List.replicate 36 0)⟩) ⟨"a"⟩) false,
    .load (.ofLines ⟨"b"⟩ "n.gltf" imageDocument) false]

/-- A model that is loaded later, from another directory, redirects the texture of an entry. -/
theorem exists_source_of_other_directory :
    ¬∀ (c : RenderConfig) (steps : List AssetStep) (f : Frame) (w : World) (place : Nat) e unit m
        image i,
      let a := (Assets.empty c).run steps
      let built := (f.build w a).value
      built.1.batch.entries[place]? = some e → built.1.batch.registry.material? place = some unit →
      a.models.find? e.key.model = some m → m.nodeImage? e.key.node = some (image, i) →
        (built.2.textures.bound? unit).bind built.2.textures.find? =
          some (m.ownSource c.textureExtension image i) := by
  intro h
  let a := (Assets.empty {}).run loadsFromTwoDirectories
  let built := ((Frame.empty {}).build .plain a).value
  have hbuilt : built.1.batch.registry.material? 0 = some 0 ∧
      ((built.1.batch.entries[0]?).bind fun e => (a.models.find? e.key.model).bind fun m =>
        (m.nodeImage? e.key.node).map fun x => (m.ownSource "ktx2" x.1 x.2).native) =
          some ⟨"a/x_baseColor.ktx2"⟩ ∧
      ((built.2.textures.bound? 0).bind built.2.textures.find?).map (·.native) =
          some ⟨"b/x_baseColor.ktx2"⟩ := by decide +kernel
  obtain ⟨hunit, hown, hshown⟩ := hbuilt
  obtain ⟨e, he, hown⟩ := Option.bind_eq_some_iff.mp hown
  obtain ⟨m, hm, hown⟩ := Option.bind_eq_some_iff.mp hown
  obtain ⟨⟨image, i⟩, himage, hown⟩ := Option.map_eq_some_iff.mp hown
  obtain ⟨source, hsource, hother⟩ := Option.map_eq_some_iff.mp hshown
  have hsame := h {} loadsFromTwoDirectories (.empty {}) .plain 0 e 0 m image i he hunit hm himage
  -- the texture has one source only, but the two paths differ
  have hsources : source = m.ownSource "ktx2" image i := Option.some.inj (hsource.symm.trans hsame)
  rw [hsources, hown] at hother
  exact absurd hother (by decide)

end Frame

end SceneBatch
