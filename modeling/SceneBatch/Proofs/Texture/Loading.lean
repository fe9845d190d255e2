import SceneBatch.Proofs.Frame.Building
import SceneBatch.Proofs.Texture.Image

/-!
# Textures of loaded models

Loading a model announces all its images, and nothing that a texture library goes through takes a
name or a unit away (`TextureLibrary.Grows`). So the assets of a configuration that models were
only loaded into know the base colors of all these models (`Assets.LoadedFor.complete`), and their
library takes each of them on every unit (`Assets.Complete.serves`).
-/

namespace SceneBatch

open Batch

/-! ### What texture libraries go through -/

namespace TextureLibrary

variable {l l' : TextureLibrary} {name : String}

/-- A library that knows all that another one knows, and has as many units. -/
structure Grows (l l' : TextureLibrary) : Prop where
  contains : ∀ name, l.contains name = true → l'.contains name = true
  units : l'.units.length = l.units.length

theorem Grows.refl (l : TextureLibrary) : l.Grows l := ⟨fun _ => id, rfl⟩

theorem Grows.trans {l'' : TextureLibrary} (h : l.Grows l') (h' : l'.Grows l'') : l.Grows l'' :=
  ⟨fun name hname => h'.contains name (h.contains name hname), h'.units.trans h.units⟩

theorem Alike.grows (h : l.Alike l') : l.Grows l' :=
  ⟨fun name hname => (h.contains name).trans hname, h.units⟩

theorem contains_register (l : TextureLibrary) (name : String) (source : TextureSource)
    (other : String) :
    (l.register name source).contains other = (decide (other = name) || l.contains other) := by
  rw [contains, find?_register]
  by_cases hother : other = name
  · simp [hother]
  · simp [hother, contains]

theorem grows_register (l : TextureLibrary) (name : String) (source : TextureSource) :
    l.Grows (l.register name source) := by
  constructor
  · intro other hother
    rw [contains_register, hother, Bool.or_true]
  · exact List.length_map ..

theorem grows_settle (l : TextureLibrary) : l.Grows l.settle :=
  ⟨fun _ => id, List.length_map ..⟩

/-- Textures that were announced are known. -/
theorem grows_announceAll (l : TextureLibrary) (sources : List (String × TextureSource)) :
    l.Grows (sources.foldl Assets.listeners.announce l) ∧
      ∀ name ∈ sources.map Prod.fst,
        (sources.foldl Assets.listeners.announce l).contains name = true := by
  induction sources generalizing l with
  | nil => exact ⟨.refl l, fun name hname => absurd hname List.not_mem_nil⟩
  | cons x xs ih =>
      obtain ⟨hgrows, hknown⟩ := ih (l.register x.1 x.2)
      refine ⟨(grows_register l x.1 x.2).trans hgrows, ?_⟩
      intro name hname
      rcases List.mem_cons.mp hname with rfl | hname
      · apply hgrows.contains
        rw [contains_register]
        simp
      · exact hknown name hname

end TextureLibrary

/-! ### Assets -/

theorem ModelLibrary.find?_insert (l : ModelLibrary) (m : Model) (name : String) :
    (l.insert m).find? name = if name = m.name then some m else l.find? name :=
  lookup_replace m.name name m l.models

theorem ModelLibrary.replace_value (l : ModelLibrary) (m : Model) :
    (l.replace m).value = l.insert m := by
  rw [replace]
  cases l.find? m.name with
  | none => rfl
  | some old => rfl

namespace Assets

theorem add_value (a : Assets) (m : Model) (isAnimated : Bool) :
    (a.add m isAnimated).value.textures =
        (m.textures a.models.textureExtension).foldl listeners.announce a.textures ∧
      (a.add m isAnimated).value.models = a.models.insert m := by
  cases isAnimated with
  | false => exact ⟨rfl, a.models.replace_value m⟩
  | true => exact ⟨rfl, a.models.replace_value m⟩

/-- The texture library has the units of a configuration, and knows the textures of all models. -/
structure Complete (c : RenderConfig) (a : Assets) : Prop where
  units : a.textures.units.length = c.maxTextureUnits.toNat
  known : ∀ name m, a.models.find? name = some m → ∀ texture ∈ m.textureNames,
    a.textures.contains texture = true

/-- Assets of a configuration whose models were all loaded into them. Skeletons may be exchanged as
one likes, textures may be announced and bound, and frames may be built and uploaded. -/
inductive LoadedFor (c : RenderConfig) : Assets → Prop
  | empty : LoadedFor c (.empty c)
  | read {a : Assets} (ha : LoadedFor c a) (isAnimated : Bool) (read : Except Fault Model) :
      LoadedFor c (a.addRead isAnimated read).value.2
  | cleared {a : Assets} (ha : LoadedFor c a) : LoadedFor c { a with models := a.models.clear }
  | posed {a : Assets} (ha : LoadedFor c a) (skeletons : SkeletonLibrary) :
      LoadedFor c { a with skeletons }
  | announced {a : Assets} (ha : LoadedFor c a) (name : String) (source : TextureSource) :
      LoadedFor c { a with textures := a.textures.register name source }
  | bound {a : Assets} (ha : LoadedFor c a) (name : String) (unit : Nat) :
      LoadedFor c { a with textures := (a.textures.bind name unit).value.2 }
  | built {a : Assets} (ha : LoadedFor c a) (f : Frame) (w : World) :
      LoadedFor c (f.build w a).value.2
  | uploaded {a : Assets} (ha : LoadedFor c a) (r : Renderer) (reader : PictureReader) (f : Frame)
      (uniforms : FrameUniforms) : LoadedFor c (r.uploadFrame reader f a uniforms).value.2.2.2

variable {c : RenderConfig} {a : Assets}

theorem Complete.of_grows (ha : a.Complete c) {textures : TextureLibrary}
    (h : a.textures.Grows textures) : Complete c { a with textures } where
  units := h.units.trans ha.units
  known name m hm texture htexture := h.contains texture (ha.known name m hm texture htexture)

theorem Complete.add (ha : a.Complete c) (m : Model) (isAnimated : Bool) :
    (a.add m isAnimated).value.Complete c := by
  obtain ⟨hgrows, hknown⟩ :=
    a.textures.grows_announceAll (m.textures a.models.textureExtension)
  rw [m.map_fst_textures] at hknown
  obtain ⟨htextures, hmodels⟩ := a.add_value m isAnimated
  constructor
  · rw [htextures, hgrows.units, ha.units]
  · intro name m' hm' texture htexture
    rw [htextures]
    rw [hmodels, ModelLibrary.find?_insert] at hm'
    split at hm'
    · -- the model that was just announced
      cases hm'
      exact hknown texture htexture
    · exact hgrows.contains texture (ha.known name m' hm' texture htexture)

theorem LoadedFor.complete (ha : a.LoadedFor c) : a.Complete c := by
  induction ha with
  | empty =>
      refine ⟨List.length_replicate, ?_⟩
      intro name m hm
      cases hm
  | @read a _ isAnimated read ih =>
      cases read with
      | error fault => exact ih
      | ok m => exact ih.add m isAnimated
  | cleared _ ih =>
      refine ⟨ih.units, ?_⟩
      intro name m hm
      cases hm
  | posed _ skeletons ih => exact ⟨ih.units, ih.known⟩
  | @announced a _ name source ih => exact ih.of_grows (a.textures.grows_register name source)
  | @bound a _ name unit ih => exact ih.of_grows (a.textures.alike_bind name unit).grows
  | @built a _ f w ih => exact ih.of_grows (f.binds_drafted w a).alike.grows
  | @uploaded a _ r reader f uniforms ih => exact ih.of_grows a.textures.grows_settle

/-- The library takes the base colors of all models that were loaded, on all units. -/
theorem Complete.serves (ha : a.Complete c) :
    Serves a.models c.maxTextureUnits.toNat a.textures := by
  intro key name hname unit hunit
  obtain ⟨m, hm, hname⟩ := Option.bind_eq_some_iff.mp hname
  obtain ⟨mesh, -, hname⟩ := Option.bind_eq_some_iff.mp hname
  obtain ⟨p, -, hname⟩ := List.exists_of_findSome?_eq_some hname
  refine ⟨ha.known key.model m hm name (m.baseColorTexture?_mem hname), ?_⟩
  rw [ha.units]
  exact hunit

end Assets

end SceneBatch
