import SceneBatch.Proofs.Batch.Places
import SceneBatch.Proofs.Texture.Binding

/-!
# Texture units of entries

A node that is committed gets the next texture unit if its mesh has a base color, a unit is left,
and the library takes the texture; else it gets none (`commit_cases`). So the textures of a batch
can be told from its entries (`boundNames`), and all that calls do to a texture library is to bind
them from unit 0 on: `Binds` says so, and `Binds.after` that calls preserve it. Where the library
takes every texture, an entry's unit is the number of textured entries before it (`Exact.after`).
-/

namespace SceneBatch

namespace InstanceRegistry

variable {r : InstanceRegistry} {place : Nat} {name : String} {textures : TextureLibrary}

/-- The next unit can be given to a texture. -/
def HasUnit (r : InstanceRegistry) (textures : TextureLibrary) (name : String) : Prop :=
  r.bindings.length < r.maxUnits ∧ textures.Takes name r.bindings.length

theorem bindMaterial_of_hasUnit (hnone : r.material? place = none)
    (h : r.HasUnit textures name) :
    (r.bindMaterial place name textures).value.2 =
      ({ r with
          slots := r.slots.modify place fun s => { s with material := some r.bindings.length }
          bindings := r.bindings ++ [⟨Int32.ofNat r.bindings.length⟩] },
        (textures.bind name r.bindings.length).value.2) := by
  obtain ⟨hunit, htakes⟩ := h
  rw [bindMaterial, hnone]
  dsimp only
  rw [if_neg (Nat.not_le_of_lt hunit), Logged.bind_value, TextureLibrary.bind_of_takes htakes]
  rfl

theorem bindMaterial_of_not_hasUnit (hnone : r.material? place = none)
    (h : ¬r.HasUnit textures name) :
    (r.bindMaterial place name textures).value.2 = (r, textures) := by
  rw [bindMaterial, hnone]
  dsimp only
  by_cases hunit : r.maxUnits ≤ r.bindings.length
  · rw [if_pos hunit]
    rfl
  · -- a unit is left, so it is the library that refuses
    have htakes : ¬textures.Takes name r.bindings.length := fun htakes =>
      h ⟨Nat.lt_of_not_le hunit, htakes⟩
    rw [if_neg hunit, Logged.bind_value, TextureLibrary.bind_of_not_takes htakes]
    rfl

theorem maxUnits_bindMaterial (r : InstanceRegistry) (place : Nat) (name : String)
    (textures : TextureLibrary) :
    (r.bindMaterial place name textures).value.2.1.maxUnits = r.maxUnits := by
  rw [bindMaterial]
  split
  · rfl
  · dsimp only
    split
    · rfl
    · rw [Logged.bind_value]
      split
      · rfl
      · rfl

/-- No more units are given out than there are. -/
theorem length_bindings_bindMaterial (h : r.bindings.length ≤ r.maxUnits) (place : Nat)
    (name : String) (textures : TextureLibrary) :
    (r.bindMaterial place name textures).value.2.1.bindings.length ≤ r.maxUnits := by
  rw [bindMaterial]
  split
  · exact h
  · dsimp only
    split
    · exact h
    · next hunit =>
      rw [Logged.bind_value]
      split
      · exact h
      · show (r.bindings ++ [_]).length ≤ r.maxUnits
        rw [List.length_append]
        exact Nat.lt_of_not_le hunit

end InstanceRegistry

namespace Batch

variable {models : ModelLibrary} {l textures : TextureLibrary} {b : Batch} {p : PendingEntry}
  {c : Call}

/-- The nodes that have an entry with the texture units of their entries. -/
def assignments (b : Batch) : List (MeshKey × Option Nat) :=
  b.keys.zip (b.registry.slots.map (·.material))

theorem getElem?_assignments (hslots : b.registry.slots.length = b.entries.length) {place : Nat}
    {e : MeshEntry} (he : b.entries[place]? = some e) :
    b.assignments[place]? = some (e.key, b.registry.material? place) := by
  have hplace : place < b.registry.slots.length := by
    rw [hslots]
    exact (List.getElem?_eq_some_iff.mp he).1
  rw [assignments, List.getElem?_zip_eq_some, keys, List.getElem?_map, List.getElem?_map, he,
    InstanceRegistry.material?, List.getElem?_eq_getElem hplace]
  exact ⟨rfl, rfl⟩

/-! ### Commits -/

theorem keys_commit (b : Batch) (textures : TextureLibrary) (p : PendingEntry) :
    (commit (b, textures) p).value.1.keys = b.keys ++ [p.key] := by
  rw [keys, (commit_spec b textures p).entries, List.map_append]
  rfl

theorem material?_addEntry (hslots : b.registry.slots.length = b.entries.length) :
    b.registry.addEntry.material? b.entries.length = none := by
  show (b.registry.slots ++ [({} : EntryInstances)])[b.entries.length]?.bind _ = none
  rw [← hslots]
  simp

theorem commit_with_unit (hslots : b.registry.slots.length = b.entries.length) {name : String}
    (hname : p.texture = some name) (h : b.registry.HasUnit textures name) :
    (commit (b, textures) p).value.1.registry =
        { b.registry with
          slots := b.registry.slots ++ [⟨[], some b.registry.bindings.length⟩]
          bindings := b.registry.bindings ++ [⟨Int32.ofNat b.registry.bindings.length⟩] } ∧
      (commit (b, textures) p).value.2 =
        (textures.bind name b.registry.bindings.length).value.2 := by
  have hbind := InstanceRegistry.bindMaterial_of_hasUnit (material?_addEntry hslots)
    (show b.registry.addEntry.HasUnit textures name from h)
  unfold commit
  simp only [hname, Logged.bind_value, Logged.pure_value, hbind]
  refine ⟨?_, rfl⟩
  rw [InstanceRegistry.addEntry, ← hslots, modify_concat]

theorem commit_without_unit (hslots : b.registry.slots.length = b.entries.length)
    (h : ∀ name, p.texture = some name → ¬b.registry.HasUnit textures name) :
    (commit (b, textures) p).value.1.registry =
        { b.registry with slots := b.registry.slots ++ [⟨[], none⟩] } ∧
      (commit (b, textures) p).value.2 = textures := by
  unfold commit
  cases hname : p.texture with
  | none => exact ⟨rfl, rfl⟩
  | some name =>
      have hbind := InstanceRegistry.bindMaterial_of_not_hasUnit (material?_addEntry hslots)
        (show ¬b.registry.addEntry.HasUnit textures name from h name hname)
      simp only [Logged.bind_value, Logged.pure_value, hbind, and_true]
      rfl

theorem assignments_commit (hslots : b.registry.slots.length = b.entries.length)
    {unit : Option Nat}
    (hunit : (commit (b, textures) p).value.1.registry.slots = b.registry.slots ++ [⟨[], unit⟩]) :
    (commit (b, textures) p).value.1.assignments = b.assignments ++ [(p.key, unit)] := by
  have hlength : b.keys.length = (b.registry.slots.map (·.material)).length := by
    rw [length_keys, List.length_map, hslots]
  rw [assignments, keys_commit, hunit, List.map_append, List.zip_append hlength]
  rfl

theorem commit_cases (hslots : b.registry.slots.length = b.entries.length)
    (textures : TextureLibrary) (p : PendingEntry) :
    (∃ name, p.texture = some name ∧ b.registry.HasUnit textures name ∧
        (commit (b, textures) p).value.1.assignments =
          b.assignments ++ [(p.key, some b.registry.bindings.length)] ∧
        (commit (b, textures) p).value.1.registry.bindings =
          b.registry.bindings ++ [⟨Int32.ofNat b.registry.bindings.length⟩] ∧
        (commit (b, textures) p).value.2 =
          (textures.bind name b.registry.bindings.length).value.2) ∨
      ((∀ name, p.texture = some name → ¬b.registry.HasUnit textures name) ∧
        (commit (b, textures) p).value.1.assignments = b.assignments ++ [(p.key, none)] ∧
        (commit (b, textures) p).value.1.registry.bindings = b.registry.bindings ∧
        (commit (b, textures) p).value.2 = textures) := by
  -- a unit is given if the entry has a texture, a unit is left and the library takes it
  by_cases hunit : ∃ name, p.texture = some name ∧ b.registry.HasUnit textures name
  · obtain ⟨name, hname, hhas⟩ := hunit
    obtain ⟨hregistry, htextures⟩ := commit_with_unit hslots hname hhas
    exact .inl ⟨name, hname, hhas, assignments_commit hslots (congrArg (·.slots) hregistry),
      congrArg (·.bindings) hregistry, htextures⟩
  · have hnone : ∀ name, p.texture = some name → ¬b.registry.HasUnit textures name :=
      fun name hname hhas => hunit ⟨name, hname, hhas⟩
    obtain ⟨hregistry, htextures⟩ := commit_without_unit hslots hnone
    exact .inr ⟨hnone, assignments_commit hslots (congrArg (·.slots) hregistry),
      congrArg (·.bindings) hregistry, htextures⟩

theorem maxUnits_commit (b : Batch) (textures : TextureLibrary) (p : PendingEntry) :
    (commit (b, textures) p).value.1.registry.maxUnits = b.registry.maxUnits := by
  unfold commit
  cases p.texture with
  | none => rfl
  | some name => exact b.registry.addEntry.maxUnits_bindMaterial b.entries.length name textures

/-! ### Pushes -/

theorem pushInstance_registry (d : Gltf.Document) (name : String) (t : Transform)
    (animation : Int32) (b : Batch) (node : Nat) :
    (pushInstance d name t animation b node).assignments = b.assignments ∧
      (pushInstance d name t animation b node).registry.bindings = b.registry.bindings ∧
      (pushInstance d name t animation b node).registry.maxUnits = b.registry.maxUnits ∧
      (pushInstance d name t animation b node).registry.slots.length = b.registry.slots.length := by
  have hkeys := keys_pushInstance d name t animation b node
  cases h : b.place? ⟨name, node⟩ with
  | none =>
      rw [pushInstance, h]
      exact ⟨rfl, rfl, rfl, rfl⟩
  | some place =>
      refine ⟨?_, ?_⟩
      · -- a record more in a slot, whose material stays
        rw [assignments, hkeys, pushInstance_of_place h, InstanceRegistry.push,
          map_modify (h := id), List.modify_id]
        · rfl
        · intro slot
          rfl
      · rw [pushInstance_of_place h]
        exact ⟨rfl, rfl, List.length_modify ..⟩

theorem cleanUp_congr {b b' : Batch} (hmaxJoints : b'.maxJoints = b.maxJoints)
    (hmaxUnits : b'.registry.maxUnits = b.registry.maxUnits) : b'.cleanUp = b.cleanUp := by
  rw [cleanUp, cleanUp, hmaxJoints, InstanceRegistry.clear, InstanceRegistry.clear, hmaxUnits]

/-- What a batch was does not matter once it is cleaned. -/
theorem cleanUp_after (b : Batch) (c : Call) : (b.after c).cleanUp = b.cleanUp := by
  refine cleanUp_congr (maxJoints_after b c) ?_
  refine call_induction (I := fun b' => b'.registry.maxUnits = b.registry.maxUnits) rfl ?_ ?_
    fun _ h => h
  · intro b' textures p hb' _
    rw [maxUnits_commit, hb']
  · intro b' d node hb'
    rw [(pushInstance_registry d c.model c.transform c.animation b' node).2.2.1, hb']

/-- However many nodes have base colors, a batch binds no more textures than there are units. -/
theorem length_bindings_after (h : b.registry.bindings.length ≤ b.registry.maxUnits) (c : Call) :
    (b.after c).registry.bindings.length ≤ (b.after c).registry.maxUnits := by
  refine call_induction
    (I := fun b' => b'.registry.bindings.length ≤ b'.registry.maxUnits) h ?_ ?_ fun _ h => h
  · intro b' textures p hb' _
    rw [maxUnits_commit]
    unfold commit
    cases p.texture with
    | none => exact hb'
    | some name =>
        exact b'.registry.addEntry.length_bindings_bindMaterial hb' b'.entries.length name textures
  · intro b' d node hb'
    obtain ⟨-, hbindings, hmaxUnits, -⟩ :=
      pushInstance_registry d c.model c.transform c.animation b' node
    rw [hbindings, hmaxUnits]
    exact hb'

/-! ### The textures of a batch -/

/-- The textures of the entries that have units, in the order of the entries. -/
def boundNames (models : ModelLibrary) (b : Batch) : List String :=
  b.assignments.filterMap fun (key, unit) => unit.bind fun _ => baseColor? models key

/-- Since the library was `l`, the textures of the batch were bound to the units from 0 on, and
nothing else happened to the library. -/
structure Binds (models : ModelLibrary) (l : TextureLibrary) (b : Batch)
    (textures : TextureLibrary) : Prop where
  slots : b.registry.slots.length = b.entries.length
  textures : textures = l.bindAll (b.boundNames models)
  takes : ∀ unit name, (b.boundNames models)[unit]? = some name → l.Takes name unit
  bindings : b.registry.bindings =
    (List.range (b.boundNames models).length).map fun unit => ⟨Int32.ofNat unit⟩
  names : ∀ key unit, (key, some unit) ∈ b.assignments →
    ∃ name, baseColor? models key = some name ∧ (b.boundNames models)[unit]? = some name

theorem Binds.length_bindings (h : b.Binds models l textures) :
    b.registry.bindings.length = (b.boundNames models).length := by
  rw [h.bindings, List.length_map, List.length_range]

theorem Binds.alike (h : b.Binds models l textures) : l.Alike textures := by
  rw [h.textures]
  exact l.alike_bindAll _

theorem binds_cleanUp (models : ModelLibrary) (l : TextureLibrary) (b : Batch) :
    b.cleanUp.Binds models l l where
  slots := rfl
  textures := rfl
  takes unit name h := by cases h
  bindings := rfl
  names key unit h := by cases h

theorem Binds.commit (h : b.Binds models l textures) (hp : p.texture = baseColor? models p.key) :
    (commit (b, textures) p).value.1.Binds models l (commit (b, textures) p).value.2 := by
  have hslots := (commit_spec b textures p).length_slots h.slots
  obtain ⟨name, hname, hhas, hassigned, hbindings, htextures⟩ |
    ⟨-, hassigned, hbindings, htextures⟩ := commit_cases h.slots textures p
  · -- the entry gets the next unit
    have hnames : (Batch.commit (b, textures) p).value.1.boundNames models =
        b.boundNames models ++ [name] := by
      rw [boundNames, hassigned, List.filterMap_append]
      simp [boundNames, ← hp, hname]
    refine ⟨hslots, ?_, ?_, ?_, ?_⟩
    · rw [htextures, hnames, TextureLibrary.bindAll_concat, ← h.textures, h.length_bindings]
    · intro unit name' hname'
      rw [hnames] at hname'
      rcases getElem?_concat_eq_some_iff.mp hname' with hold | ⟨rfl, rfl⟩
      · exact h.takes unit name' hold
      · rw [← h.length_bindings]
        exact h.alike.takes_iff.mp hhas.2
    · rw [hbindings, hnames, List.length_append, List.length_singleton, List.range_succ,
        List.map_append, ← h.bindings, h.length_bindings]
      rfl
    · intro key unit hmem
      rw [hnames]
      rw [hassigned] at hmem
      rcases List.mem_append.mp hmem with hold | hnew
      · -- an entry that was there keeps its unit, and the unit its texture
        obtain ⟨name', hkey, hbound⟩ := h.names key unit hold
        exact ⟨name', hkey, getElem?_concat_eq_some_iff.mpr (.inl hbound)⟩
      · cases List.mem_singleton.mp hnew
        refine ⟨name, hp.symm.trans hname, getElem?_concat_eq_some_iff.mpr (.inr ⟨?_, rfl⟩)⟩
        exact h.length_bindings
  · -- it gets none
    have hnames : (Batch.commit (b, textures) p).value.1.boundNames models =
        b.boundNames models := by
      rw [boundNames, hassigned, List.filterMap_append]
      exact List.append_nil _
    refine ⟨hslots, ?_, ?_, ?_, ?_⟩
    · rw [htextures, hnames, ← h.textures]
    · rw [hnames]
      exact h.takes
    · rw [hbindings, hnames]
      exact h.bindings
    · intro key unit hmem
      rw [hnames]
      rw [hassigned] at hmem
      rcases List.mem_append.mp hmem with hold | hnew
      · exact h.names key unit hold
      · cases List.mem_singleton.mp hnew

theorem Binds.pushInstance (h : b.Binds models l textures) (d : Gltf.Document) (name : String)
    (t : Transform) (animation : Int32) (node : Nat) :
    (pushInstance d name t animation b node).Binds models l textures := by
  obtain ⟨hassigned, hbindings, -, hslots⟩ := pushInstance_registry d name t animation b node
  have hnames : (Batch.pushInstance d name t animation b node).boundNames models =
      b.boundNames models := by
    rw [boundNames, hassigned, boundNames]
  refine ⟨?_, ?_, ?_, ?_, ?_⟩
  · rw [hslots, h.slots, ← length_keys, ← length_keys, keys_pushInstance]
  · rw [hnames]
    exact h.textures
  · rw [hnames]
    exact h.takes
  · rw [hbindings, hnames]
    exact h.bindings
  · rw [hassigned, hnames]
    exact h.names

/-- Calls bind the textures of the entries that they make, and no others. -/
theorem Binds.after (h : b.Binds models l c.textures)
    (hmodels : ∀ key, baseColor? c.models key = baseColor? models key) :
    (b.after c).Binds models l (b.texturesAfter c) := by
  refine addModel_induction (I := fun b' textures => b'.Binds models l textures) h ?_ ?_ ?_
  · intro b' textures p hb' _ hp
    exact hb'.commit (hp.trans (hmodels p.key))
  · intro b' textures d node hb'
    exact hb'.pushInstance d c.model c.transform c.animation node
  · intro b' textures hb'
    exact ⟨hb'.slots, hb'.textures, hb'.takes, hb'.bindings, hb'.names⟩

/-! ### Where every texture is taken -/

/-- How many of some nodes have a mesh with a base color. -/
def coloredCount (models : ModelLibrary) (keys : List MeshKey) : Nat :=
  keys.countP fun key => (baseColor? models key).isSome

/-- The unit of an entry that comes after those of some nodes: as many units are taken as these
nodes have base colors. -/
def dueUnit? (models : ModelLibrary) (maxUnits : Nat) (before : List MeshKey) (key : MeshKey) :
    Option Nat :=
  if (baseColor? models key).isSome ∧ coloredCount models before < maxUnits then
    some (coloredCount models before)
  else none

/-- Units are given to the first entries with base colors, in their order. -/
structure Exact (models : ModelLibrary) (b : Batch) : Prop where
  length_bindings :
    b.registry.bindings.length = min (coloredCount models b.keys) b.registry.maxUnits
  units : ∀ place key unit, b.assignments[place]? = some (key, unit) →
    unit = dueUnit? models b.registry.maxUnits (b.keys.take place) key

/-- The library takes the base colors of all meshes, on each of `maxUnits` units. -/
def Serves (models : ModelLibrary) (maxUnits : Nat) (l : TextureLibrary) : Prop :=
  ∀ key name, baseColor? models key = some name → ∀ unit < maxUnits, l.Takes name unit

theorem exact_cleanUp (models : ModelLibrary) (b : Batch) : b.cleanUp.Exact models where
  length_bindings := (Nat.zero_min _).symm
  units place key unit h := by cases h

theorem coloredCount_concat (keys : List MeshKey) (key : MeshKey) :
    coloredCount models (keys ++ [key]) =
      coloredCount models keys + if (baseColor? models key).isSome then 1 else 0 := by
  rw [coloredCount, List.countP_append, List.countP_singleton]
  rfl

/-- One more entry, with the unit that it is due. -/
theorem Exact.concat {b' : Batch} {key : MeshKey} {unit : Option Nat} (h : b.Exact models)
    (hslots : b.registry.slots.length = b.entries.length) (hkeys : b'.keys = b.keys ++ [key])
    (hassigned : b'.assignments = b.assignments ++ [(key, unit)])
    (hmaxUnits : b'.registry.maxUnits = b.registry.maxUnits)
    (hlength : b'.registry.bindings.length =
      b.registry.bindings.length + if unit.isSome then 1 else 0)
    (hunit : unit = dueUnit? models b.registry.maxUnits b.keys key) : b'.Exact models := by
  have hassignments : b.assignments.length = b.keys.length := by
    rw [assignments, List.length_zip, List.length_map, hslots, length_keys, Nat.min_self]
  constructor
  · rw [hlength, h.length_bindings, hmaxUnits, hkeys, coloredCount_concat, hunit]
    -- one binding more just if the entry has a base color and the cap is not reached
    unfold dueUnit?
    by_cases hcolored : (baseColor? models key).isSome = true
    · by_cases hcount : coloredCount models b.keys < b.registry.maxUnits
      · simp [hcolored, hcount]
        omega
      · simp [hcolored, hcount]
        omega
    · simp [hcolored]
  · intro place key' unit' hplace
    rw [hassigned] at hplace
    rw [hmaxUnits, hkeys]
    -- earlier entries have the same ones before them as they had
    rcases getElem?_concat_eq_some_iff.mp hplace with hold | ⟨rfl, hnew⟩
    · have hlt : place < b.assignments.length := (List.getElem?_eq_some_iff.mp hold).1
      rw [List.take_append_of_le_length (by omega)]
      exact h.units place key' unit' hold
    · cases hnew
      rw [hassignments, List.take_left]
      exact hunit

theorem Exact.commit (h : b.Exact models) (hb : b.Binds models l textures)
    (hserves : Serves models b.registry.maxUnits l) (hp : p.texture = baseColor? models p.key) :
    (commit (b, textures) p).value.1.Exact models := by
  have hkeys := keys_commit b textures p
  have hmaxUnits := maxUnits_commit b textures p
  -- the library takes every texture, so only the cap can keep a unit from an entry
  have hlt : b.registry.bindings.length < b.registry.maxUnits ↔
      coloredCount models b.keys < b.registry.maxUnits := by
    rw [h.length_bindings]
    omega
  obtain ⟨name, hname, hhas, hassigned, hbindings, -⟩ | ⟨hnone, hassigned, hbindings, -⟩ :=
    commit_cases hb.slots textures p
  · refine h.concat hb.slots hkeys hassigned hmaxUnits ?_ ?_
    · rw [hbindings, List.length_append]
      rfl
    · have hcount := hlt.mp hhas.1
      rw [dueUnit?, if_pos ⟨by rw [← hp, hname]; rfl, hcount⟩, h.length_bindings]
      congr 1
      omega
  · refine h.concat hb.slots hkeys hassigned hmaxUnits ?_ ?_
    · rw [hbindings]
      rfl
    · rw [dueUnit?, if_neg]
      rintro ⟨hcolored, hcount⟩
      obtain ⟨name, hname⟩ := Option.isSome_iff_exists.mp hcolored
      have hfree := hlt.mpr hcount
      exact hnone name (hp.trans hname) ⟨hfree, hb.alike.takes_iff.mpr (hserves _ _ hname _ hfree)⟩

theorem Exact.pushInstance (h : b.Exact models) (d : Gltf.Document) (name : String)
    (t : Transform) (animation : Int32) (node : Nat) :
    (pushInstance d name t animation b node).Exact models := by
  obtain ⟨hassigned, hbindings, hmaxUnits, -⟩ := pushInstance_registry d name t animation b node
  have hkeys := keys_pushInstance d name t animation b node
  constructor
  · rw [hbindings, hmaxUnits, hkeys]
    exact h.length_bindings
  · rw [hassigned, hmaxUnits, hkeys]
    exact h.units

/-- Calls give the entries that they make the units that are due. -/
theorem Exact.after (h : b.Exact models) (hb : b.Binds models l c.textures)
    (hserves : Serves models b.registry.maxUnits l)
    (hmodels : ∀ key, baseColor? c.models key = baseColor? models key) :
    (b.after c).Exact models ∧ (b.after c).registry.maxUnits = b.registry.maxUnits := by
  -- Exactness needs the bindings of the moment, so both are carried along.
  have hall : (b.after c).Binds models l (b.texturesAfter c) ∧ (b.after c).Exact models ∧
      (b.after c).registry.maxUnits = b.registry.maxUnits := by
    refine addModel_induction
      (I := fun b' textures => b'.Binds models l textures ∧ b'.Exact models ∧
        b'.registry.maxUnits = b.registry.maxUnits) ⟨hb, h, rfl⟩ ?_ ?_ ?_
    · rintro b' textures p ⟨hbinds, hexact, hmaxUnits⟩ - hp
      have hcolor := hp.trans (hmodels p.key)
      exact ⟨hbinds.commit hcolor, hexact.commit hbinds (hmaxUnits ▸ hserves) hcolor,
        (maxUnits_commit b' textures p).trans hmaxUnits⟩
    · rintro b' textures d node ⟨hbinds, hexact, hmaxUnits⟩
      exact ⟨hbinds.pushInstance d c.model c.transform c.animation node,
        hexact.pushInstance d c.model c.transform c.animation node,
        (pushInstance_registry d c.model c.transform c.animation b' node).2.2.1.trans hmaxUnits⟩
    · rintro b' textures ⟨hbinds, hexact, hmaxUnits⟩
      exact ⟨⟨hbinds.slots, hbinds.textures, hbinds.takes, hbinds.bindings, hbinds.names⟩,
        ⟨hexact.length_bindings, hexact.units⟩, hmaxUnits⟩
  exact hall.2

/-! ### Records -/

/-- The records of an entry carry its unit, or -1 if it has none. -/
def RecordsAgree (b : Batch) : Prop :=
  ∀ (place : Nat) (slot : EntryInstances), b.registry.slots[place]? = some slot →
    ∀ r ∈ slot.records, r.material = (slot.material.map Int32.ofNat).getD (-1)

theorem RecordsAgree.commit (h : b.RecordsAgree)
    (hslots : b.registry.slots.length = b.entries.length) (textures : TextureLibrary)
    (p : PendingEntry) : (commit (b, textures) p).value.1.RecordsAgree := by
  obtain ⟨unit, hcommit⟩ := (commit_spec b textures p).slots hslots
  intro place slot hslot
  rw [hcommit] at hslot
  rcases getElem?_concat_eq_some_iff.mp hslot with hold | ⟨-, rfl⟩
  · exact h place slot hold
  · intro r hr
    cases hr

theorem RecordsAgree.pushInstance (h : b.RecordsAgree) (d : Gltf.Document) (name : String)
    (t : Transform) (animation : Int32) (node : Nat) :
    (pushInstance d name t animation b node).RecordsAgree := by
  cases hkey : b.place? ⟨name, node⟩ with
  | none =>
      rw [Batch.pushInstance, hkey]
      exact h
  | some place =>
      rw [pushInstance_of_place hkey]
      intro i slot hslot
      rw [InstanceRegistry.push, List.getElem?_modify] at hslot
      obtain ⟨old, hold, rfl⟩ := Option.map_eq_some_iff.mp hslot
      by_cases hi : place = i
      · subst hi
        simp only [if_true]
        intro r hr
        rcases List.mem_append.mp hr with hr | hr
        · exact h place old hold r hr
        · -- the new record was made with the unit that the entry has
          rw [List.mem_singleton.mp hr]
          show b.materialOf ⟨name, node⟩ = _
          simp only [materialOf, hkey, InstanceRegistry.material?, hold, Option.bind_eq_bind,
            Option.bind_some]
      · simp only [if_neg hi]
        exact h i old hold

theorem RecordsAgree.after (h : b.RecordsAgree)
    (hslots : b.registry.slots.length = b.entries.length) (c : Call) :
    (b.after c).RecordsAgree := by
  -- One slot per entry goes along: a commit writes into the slot of its own entry.
  have hboth : (b.after c).registry.slots.length = (b.after c).entries.length ∧
      (b.after c).RecordsAgree := by
    refine call_induction
      (I := fun b' => b'.registry.slots.length = b'.entries.length ∧ b'.RecordsAgree)
      ⟨hslots, h⟩ ?_ ?_ fun _ hb' => hb'
    · rintro b' textures p ⟨hslots', hagree⟩ -
      exact ⟨(commit_spec b' textures p).length_slots hslots', hagree.commit hslots' textures p⟩
    · rintro b' d node ⟨hslots', hagree⟩
      obtain ⟨-, -, -, hlength⟩ :=
        pushInstance_registry d c.model c.transform c.animation b' node
      refine ⟨?_, hagree.pushInstance d c.model c.transform c.animation node⟩
      rw [hlength, hslots', ← length_keys, ← length_keys, keys_pushInstance]
  exact hboth.2

end Batch

end SceneBatch
