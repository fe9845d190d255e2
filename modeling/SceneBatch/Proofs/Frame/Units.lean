import SceneBatch.Proofs.Frame.Palette
import SceneBatch.Proofs.Texture.Loading

/-!
# Texture units of a frame

In a frame of loaded models the entries with base colors get the texture units in the order of the
entries, until the units run out; nothing else keeps a unit from an entry. The library has their
textures bound to these units when the frame is built, and the records of an entry name its unit:
`Frame.AssignsUnits` says so, and `assignsUnits_build` that it is true of every frame.
-/

namespace SceneBatch

open Batch

namespace Batch

variable {models : ModelLibrary} {l textures : TextureLibrary} {b : Batch}

theorem dueUnit?_eq_some {maxUnits unit : Nat} {before : List MeshKey} {key : MeshKey}
    (h : dueUnit? models maxUnits before key = some unit) :
    (baseColor? models key).isSome ∧ coloredCount models before = unit := by
  unfold dueUnit? at h
  split at h
  · next hdue => exact ⟨hdue.1, Option.some.inj h⟩
  · cases h

/-- Behind a node with a base color the count is higher. -/
theorem coloredCount_take_lt {keys : List MeshKey} {place later : Nat} {key : MeshKey}
    (hkey : keys[place]? = some key) (hcolored : (baseColor? models key).isSome)
    (hlater : place < later) :
    coloredCount models (keys.take place) < coloredCount models (keys.take later) := by
  have hnext : keys.take (place + 1) = keys.take place ++ [key] := by
    rw [List.take_add_one, hkey]
    rfl
  -- The keys up to this one, itself among them, come before `later`.
  have hprefix : (keys.take (place + 1)).Sublist (keys.take later) :=
    (List.take_prefix_take_left hlater).sublist
  have hstep : coloredCount models (keys.take (place + 1)) =
      coloredCount models (keys.take place) + 1 := by
    rw [hnext, coloredCount_concat, if_pos hcolored]
  have hle : coloredCount models (keys.take (place + 1)) ≤ coloredCount models (keys.take later) :=
    hprefix.countP_le
  omega

/-- Different entries are due different units. -/
theorem dueUnit?_injective {keys : List MeshKey} {maxUnits place place' unit : Nat}
    {key key' : MeshKey} (hkey : keys[place]? = some key) (hkey' : keys[place']? = some key')
    (h : dueUnit? models maxUnits (keys.take place) key = some unit)
    (h' : dueUnit? models maxUnits (keys.take place') key' = some unit) : place = place' := by
  obtain ⟨hcolored, hcount⟩ := dueUnit?_eq_some h
  obtain ⟨hcolored', hcount'⟩ := dueUnit?_eq_some h'
  -- equal units are equal counts, but the earlier of two places would have the lower count
  rcases Nat.lt_trichotomy place place' with hlt | heq | hgt
  · have := coloredCount_take_lt hkey hcolored hlt
    omega
  · exact heq
  · have := coloredCount_take_lt hkey' hcolored' hgt
    omega

/-- An entry that has a unit is one of the entries. -/
theorem exists_entry_of_material? (hslots : b.registry.slots.length = b.entries.length)
    {place unit : Nat} (h : b.registry.material? place = some unit) :
    ∃ e, b.entries[place]? = some e := by
  obtain ⟨slot, hslot, -⟩ := Option.bind_eq_some_iff.mp h
  have hplace : place < b.entries.length := by
    rw [← hslots]
    exact (List.getElem?_eq_some_iff.mp hslot).1
  exact ⟨_, List.getElem?_eq_getElem hplace⟩

theorem Exact.material?_eq (h : b.Exact models)
    (hslots : b.registry.slots.length = b.entries.length) {place : Nat} {e : MeshEntry}
    (he : b.entries[place]? = some e) :
    b.registry.material? place = dueUnit? models b.registry.maxUnits (b.keys.take place) e.key :=
  h.units place e.key _ (getElem?_assignments hslots he)

theorem Exact.apart (h : b.Exact models) (hslots : b.registry.slots.length = b.entries.length)
    {place place' unit : Nat} (hplace : b.registry.material? place = some unit)
    (hplace' : b.registry.material? place' = some unit) : place = place' := by
  obtain ⟨e, he⟩ := exists_entry_of_material? hslots hplace
  obtain ⟨e', he'⟩ := exists_entry_of_material? hslots hplace'
  have hkey : b.keys[place]? = some e.key := by rw [keys, List.getElem?_map, he]; rfl
  have hkey' : b.keys[place']? = some e'.key := by rw [keys, List.getElem?_map, he']; rfl
  -- both entries have the unit because it is due to them
  rw [h.material?_eq hslots he] at hplace
  rw [h.material?_eq hslots he'] at hplace'
  exact dueUnit?_injective hkey hkey' hplace hplace'

/-- The library has the base color of an entry bound to the entry's unit. -/
theorem Binds.bound?_eq (h : b.Binds models l textures) {place unit : Nat} {e : MeshEntry}
    (he : b.entries[place]? = some e) (hunit : b.registry.material? place = some unit) :
    unit < b.registry.bindings.length ∧
      ∃ name, baseColor? models e.key = some name ∧ textures.bound? unit = some name := by
  have hassigned := getElem?_assignments h.slots he
  rw [hunit] at hassigned
  obtain ⟨name, hname, hbound⟩ := h.names e.key unit (List.mem_of_getElem? hassigned)
  constructor
  · rw [h.length_bindings]
    exact (List.getElem?_eq_some_iff.mp hbound).1
  · refine ⟨name, hname, ?_⟩
    rw [h.textures, TextureLibrary.bound?_bindAll h.takes, hbound]
    rfl

theorem Binds.textureUnit_eq (h : b.Binds models l textures) {unit : Nat}
    {binding : MaterialBinding} (hbinding : b.registry.bindings[unit]? = some binding) :
    binding.textureUnit = Int32.ofNat unit := by
  rw [h.bindings, List.getElem?_map] at hbinding
  obtain ⟨unit', hunit', rfl⟩ := Option.map_eq_some_iff.mp hbinding
  obtain ⟨hlt, heq⟩ := List.getElem?_eq_some_iff.mp hunit'
  rw [List.getElem_range] at heq
  rw [heq]

theorem RecordsAgree.material_eq (h : b.RecordsAgree) {place : Nat} {r : InstanceRecord}
    (hr : r ∈ b.registry.instances place) :
    r.material = ((b.registry.material? place).map Int32.ofNat).getD (-1) := by
  rw [InstanceRegistry.instances] at hr
  cases hslot : b.registry.slots[place]? with
  | none =>
      rw [hslot] at hr
      cases hr
  | some slot =>
      rw [hslot] at hr
      simp only [InstanceRegistry.material?, hslot, Option.bind_eq_bind, Option.bind_some]
      exact h place slot hslot r hr

end Batch

namespace Frame

variable {f : Frame} {a : Assets} {c : RenderConfig}

theorem MadeFor.maxUnits_drafted (hf : f.MadeFor c) (w : World) (a : Assets) :
    (f.drafted w a).batch.registry.maxUnits = c.maxTextureUnits.toNat :=
  congrArg (·.registry.maxUnits) ((cleanUp_drafted f w a).trans hf.keepsOnly.batch)

theorem agree_drafted (f : Frame) (w : World) (a : Assets) :
    (f.drafted w a).batch.RecordsAgree := by
  -- the records of a call carry its entries' units only if every entry has a slot
  have hboth : (f.drafted w a).batch.Binds a.models a.textures (f.drafted w a).textures ∧
      (f.drafted w a).batch.RecordsAgree := by
    refine drafted_induction
      (I := fun b textures => b.Binds a.models a.textures textures ∧ b.RecordsAgree) w ?_ ?_
    · refine ⟨binds_cleanUp a.models a.textures f.batch, ?_⟩
      intro place slot hslot
      cases hslot
    · rintro b call hcall ⟨hbinds, hagree⟩
      exact ⟨hbinds.after fun key => by rw [hcall], hagree.after hbinds.slots call⟩
  exact hboth.2

/-- Where the library takes all base colors, units are given out to the first entries that have
one. -/
theorem exact_drafted (w : World) (h : Serves a.models f.batch.registry.maxUnits a.textures) :
    (f.drafted w a).batch.Exact a.models := by
  -- That the units are exact is kept only together with what is bound, and up to which unit.
  have hall : (f.drafted w a).batch.Binds a.models a.textures (f.drafted w a).textures ∧
      (f.drafted w a).batch.Exact a.models ∧
      (f.drafted w a).batch.registry.maxUnits = f.batch.registry.maxUnits := by
    refine drafted_induction
      (I := fun b textures => b.Binds a.models a.textures textures ∧ b.Exact a.models ∧
        b.registry.maxUnits = f.batch.registry.maxUnits) w ?_ ?_
    · exact ⟨binds_cleanUp a.models a.textures f.batch, exact_cleanUp a.models f.batch, rfl⟩
    · rintro b call hcall ⟨hbinds, hexact, hmaxUnits⟩
      have hmodels : ∀ key, baseColor? call.models key = baseColor? a.models key := by
        intro key
        rw [hcall]
      obtain ⟨hafter, hkept⟩ := hexact.after hbinds (hmaxUnits ▸ h) hmodels
      exact ⟨hbinds.after hmodels, hafter, hkept.trans hmaxUnits⟩
  exact hall.2.1

/-- The texture units of a frame that was built from `a`, and left the assets `a'`. -/
structure AssignsUnits (g : Frame) (c : RenderConfig) (a a' : Assets) : Prop where
  material : ∀ (place : Nat) e, g.batch.entries[place]? = some e →
    g.batch.registry.material? place =
      dueUnit? a.models c.maxTextureUnits.toNat (g.batch.keys.take place) e.key
  bindings : ∀ (unit : Nat) binding, g.batch.registry.bindings[unit]? = some binding →
    binding.textureUnit = Int32.ofNat unit
  count : g.batch.registry.bindings.length =
    min (coloredCount a.models g.batch.keys) c.maxTextureUnits.toNat
  apart : ∀ place place' unit, g.batch.registry.material? place = some unit →
    g.batch.registry.material? place' = some unit → place = place'
  bound : ∀ (place : Nat) e unit, g.batch.entries[place]? = some e →
    g.batch.registry.material? place = some unit →
    unit < g.batch.registry.bindings.length ∧
      ∃ name, baseColor? a.models e.key = some name ∧ a'.textures.bound? unit = some name
  records : ∀ place, ∀ r ∈ g.batch.registry.instances place,
    r.material = ((g.batch.registry.material? place).map Int32.ofNat).getD (-1)

/-- The units of every frame that is built for a configuration, from assets of the same one whose
models were loaded into them. -/
theorem assignsUnits_build (hf : f.MadeFor c) (ha : a.LoadedFor c) (w : World) :
    (f.build w a).value.1.AssignsUnits c a (f.build w a).value.2 := by
  have hmaxUnits := hf.maxUnits_drafted w a
  have hsame : f.batch.registry.maxUnits = c.maxTextureUnits.toNat :=
    congrArg (·.registry.maxUnits) hf.keepsOnly.batch
  have hserves : Serves a.models f.batch.registry.maxUnits a.textures := by
    rw [hsame]
    exact ha.complete.serves
  have hbinds := f.binds_drafted w a
  have hexact := exact_drafted w hserves
  rw [build_value]
  refine ⟨?_, ?_, ?_, ?_, ?_, ?_⟩
  · -- an entry has the unit that it is due by its place
    intro place e he
    rw [← hmaxUnits]
    exact hexact.material?_eq hbinds.slots he
  · -- bindings stand at their units
    intro unit binding hbinding
    exact hbinds.textureUnit_eq hbinding
  · -- one binding for each base color, up to the cap
    rw [← hmaxUnits]
    exact hexact.length_bindings
  · -- no unit belongs to two entries
    intro place place' unit hplace hplace'
    exact hexact.apart hbinds.slots hplace hplace'
  · -- and the library has the base color of its entry bound to it
    intro place e unit he hunit
    exact hbinds.bound?_eq he hunit
  · -- records name the units of their entries
    intro place r hr
    exact (agree_drafted f w a).material_eq hr

end Frame

/-- A model whose document shows an image under the name of a base color. -/
def Model.painted (m : Model) (image : String) : Model :=
  { m with
    asset := { m.asset with
      document := { m.asset.document with
        images := [⟨some image, .nowhere⟩]
        textures := [⟨0, none⟩] } } }

/-- Assets into which a painted plain model was loaded. -/
def Assets.painted (c : RenderConfig) : Assets :=
  ((Assets.empty c).addRead true (.ok ((plainModel "m.glb" [0] [3]).painted "m_baseColor"))).value.2

namespace Frame

/-- The first frame of the defaults with a painted model binds its base color. -/
theorem first_build_assignsUnits :
    let c : RenderConfig := {}
    let built := ((Frame.empty c).build .plain (.painted c)).value
    (Frame.empty c).MadeFor c ∧ (Assets.painted c).LoadedFor c ∧
      built.2.textures.bound? 0 = some "m_baseColor" ∧
      built.1.AssignsUnits c (.painted c) built.2 := by
  intro c built
  have hf : (Frame.empty c).MadeFor c := .new
  have ha : (Assets.painted c).LoadedFor c := .read .empty true _
  have hbound : built.2.textures.bound? 0 = some "m_baseColor" := by decide
  exact ⟨hf, ha, hbound, assignsUnits_build hf ha .plain⟩

end Frame

end SceneBatch
