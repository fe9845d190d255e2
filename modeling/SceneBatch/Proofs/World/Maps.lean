import SceneBatch.Proofs.World.Operations
import SceneBatch.Proofs.World.Store
import SceneBatch.World.Query

/-!
# The maps of a world

The store of a world, the map of its identifiers and the map of its names are changed one after the
other, and handles come back into use. In a consistent world they tell the same entities
(`WorldOver.IsConsistent`): the map of identifiers pairs them one to one with the live handles of
the store, and the map of names with their names. Every effect of an operation keeps a world
consistent, and an operation on a consistent world fails only where it must
(`WorldStep.exists_outcome_iff`). Nothing is left of an identifier that is in no map
(`WorldOver.Lacks`), and an entity that enters a world has no components.
-/

namespace SceneBatch

namespace WorldOver

variable {σ : Type} {w : WorldOver σ}

/-- The identifiers that are tied to a handle. -/
def idents (w : WorldOver σ) : List EntityId := w.handles.map Prod.fst

/-! ### Consistent worlds -/

/-- The maps are one to one, between the same entities as the store has, and the identifiers that
are handed out are ahead of all of them. -/
structure IsConsistent [HandleSupply σ] (w : WorldOver σ) : Prop where
  store : w.store.IsSound
  nodup_idents : w.idents.Nodup
  handles : (w.handles.map Prod.snd).Perm w.store.handles
  nodup_names : (w.names.map Prod.fst).Nodup
  named : (w.names.map Prod.snd).Perm w.idents
  ahead : ∀ id ∈ w.idents, id.raw < w.ids.next

theorem contains_iff {id : EntityId} : w.contains id ↔ id ∈ w.idents := lookup_isSome_iff_mem

theorem notMem_of_contains {id : EntityId} (h : w.contains id = false) : id ∉ w.idents := by
  rw [← contains_iff, h]
  exact Bool.false_ne_true

theorem id?_eq_none_iff {name : String} : w.id? name = none ↔ name ∉ w.names.map Prod.fst := by
  rw [← lookup_isSome_iff_mem, Bool.not_eq_true, Option.isSome_eq_false_iff,
    Option.isNone_iff_eq_none]
  rfl

variable [HandleSupply σ]

/-- A new name stands in front of the others. -/
theorem names_register {name : String} (hname : w.id? name = none) (id : EntityId)
    (ids : IdSource) : ({ w with ids }.register id name).names = (name, id) :: w.names := by
  have hnames : w.names.filter (·.1 ≠ name) = w.names := by
    rw [List.filter_eq_self]
    intro x hx
    have hne : x.1 ≠ name := fun heq =>
      id?_eq_none_iff.mp hname (List.mem_map.mpr ⟨x, hx, heq⟩)
    simp [hne]
  simp only [register, hnames]

namespace IsConsistent

theorem nodup_handles (h : w.IsConsistent) : (w.handles.map Prod.snd).Nodup :=
  h.handles.nodup_iff.mpr h.store.nodup

theorem nodup_named (h : w.IsConsistent) : (w.names.map Prod.snd).Nodup :=
  h.named.nodup_iff.mpr h.nodup_idents

/-- The identifier that is handed out next is new. -/
theorem next_notMem (h : w.IsConsistent) : ⟨w.ids.next⟩ ∉ w.idents :=
  fun hid => Nat.lt_irrefl _ (h.ahead _ hid)

variable {id : EntityId} {handle : Handle} {name : String}

theorem handle?_eq_some_iff (h : w.IsConsistent) :
    w.handle? id = some handle ↔ (id, handle) ∈ w.handles :=
  lookup_eq_some_iff_mem h.nodup_idents

theorem mem_handles (h : w.IsConsistent) (hhandle : w.handle? id = some handle) :
    handle ∈ w.store.handles :=
  h.handles.mem_iff.mp (List.mem_map.mpr ⟨_, h.handle?_eq_some_iff.mp hhandle, rfl⟩)

theorem owner?_eq_some_iff (h : w.IsConsistent) :
    w.owner? handle = some id ↔ (id, handle) ∈ w.handles :=
  map_fst_find?_eq_some_iff h.nodup_handles

theorem id?_eq_some_iff (h : w.IsConsistent) : w.id? name = some id ↔ (name, id) ∈ w.names :=
  lookup_eq_some_iff_mem h.nodup_names

theorem name?_eq_some_iff (h : w.IsConsistent) : w.name? id = some name ↔ (name, id) ∈ w.names :=
  map_fst_find?_eq_some_iff h.nodup_named

/-! ### Effects on consistent worlds -/

theorem empty : (WorldOver.empty : WorldOver σ).IsConsistent where
  store := Store.isSound_empty
  nodup_idents := List.nodup_nil
  handles := .nil
  nodup_names := List.nodup_nil
  named := .nil
  ahead id hid := by cases hid

/-- A new identifier, a new handle and a new name take nothing from the maps. -/
theorem register_eq (h : w.IsConsistent) (hid : id ∉ w.idents) (hname : w.id? name = none)
    (ids : IdSource) :
    { w with ids }.register id name =
      { store := w.store.spawn.2
        handles := (id, w.store.spawn.1) :: w.handles
        names := (name, id) :: w.names
        ids } := by
  have hhandle : w.store.spawn.1 ∉ w.handles.map Prod.snd := by
    rw [h.handles.mem_iff]
    exact h.store.spawn.1
  -- neither side of the pair is tied to anything, so tying it unties nothing
  have hhandles : (w.handles.filter fun x => x.1 ≠ id ∧ x.2 ≠ w.store.spawn.1) = w.handles := by
    rw [List.filter_eq_self]
    intro x hx
    have hne : x.1 ≠ id := fun heq => hid (List.mem_map.mpr ⟨x, hx, heq⟩)
    have hne' : x.2 ≠ w.store.spawn.1 := fun heq => hhandle (List.mem_map.mpr ⟨x, hx, heq⟩)
    simp [hne, hne']
  have hnames := names_register hname id ids
  simp only [WorldOver.register] at hnames ⊢
  rw [tie, hhandles, hnames]

theorem register (h : w.IsConsistent) (hid : id ∉ w.idents) (hname : w.id? name = none)
    {ids : IdSource} (hids : w.ids.next ≤ ids.next) (hnext : id.raw < ids.next) :
    ({ w with ids }.register id name).IsConsistent := by
  rw [h.register_eq hid hname]
  obtain ⟨hnew, hsound⟩ := h.store.spawn
  have hhandles : w.store.spawn.2.handles.Perm (w.store.spawn.1 :: w.store.handles) :=
    w.store.rows_spawn_perm.map Row.handle
  refine ⟨hsound, ?_, ?_, ?_, ?_, ?_⟩
  · exact List.nodup_cons.mpr ⟨hid, h.nodup_idents⟩
  · -- The new handle is added on both sides.
    exact (h.handles.cons w.store.spawn.1).trans hhandles.symm
  · exact List.nodup_cons.mpr ⟨id?_eq_none_iff.mp hname, h.nodup_names⟩
  · exact h.named.cons id
  · intro id' hid'
    -- Fresh or old, every id stays below the next one to be given.
    rcases List.mem_cons.mp hid' with rfl | hid'
    · exact hnext
    · exact Nat.lt_of_lt_of_le (h.ahead id' hid') hids

/-- The pair of an identifier is the one of its handle. -/
theorem filter_handles_eq (h : w.IsConsistent) (hhandle : (id, handle) ∈ w.handles) :
    w.handles.filter (·.1 ≠ id) = w.handles.filter (·.2 ≠ handle) := by
  apply List.filter_congr
  intro x hx
  have hiff : x.1 = id ↔ x.2 = handle := by
    constructor
    · intro heq
      rw [List.inj_on_of_nodup_map h.nodup_idents hx hhandle heq]
    · intro heq
      rw [List.inj_on_of_nodup_map h.nodup_handles hx hhandle heq]
  simp [hiff]

theorem forget (h : w.IsConsistent) {store : Store σ} (hhandle : w.handle? id = some handle)
    (hstore : w.store.despawn handle = some store) :
    ({ w with store }.forget id).IsConsistent := by
  obtain ⟨store', hstore', hsound, hrows⟩ := h.store.despawn (h.mem_handles hhandle)
  cases hstore'.symm.trans hstore
  have hhandles : store.handles.Perm (w.store.handles.filter (· ≠ handle)) := by
    rw [Store.handles, Store.handles, List.filter_map]
    exact hrows.map Row.handle
  have hidents : ({ w with store }.forget id).idents = w.idents.filter (· ≠ id) := by
    rw [idents, idents, List.filter_map]
    rfl
  refine ⟨hsound, ?_, ?_, ?_, ?_, ?_⟩
  · rw [hidents]
    exact h.nodup_idents.filter _
  · -- what leaves the map with the identifier is its handle, which the store has released
    show ((w.handles.filter (·.1 ≠ id)).map Prod.snd).Perm store.handles
    rw [h.filter_handles_eq (h.handle?_eq_some_iff.mp hhandle)]
    refine List.Perm.trans ?_ hhandles.symm
    have hfilter := h.handles.filter (· ≠ handle)
    rw [List.filter_map] at hfilter
    exact hfilter
  · exact h.nodup_names.sublist (List.filter_sublist.map _)
  · rw [hidents]
    have hfilter := h.named.filter (· ≠ id)
    rw [List.filter_map] at hfilter
    exact hfilter
  · intro id' hid'
    rw [hidents] at hid'
    exact h.ahead id' (List.mem_filter.mp hid').1

/-- Where the handles stay, the maps may stay. -/
theorem of_handles (h : w.IsConsistent) {store : Store σ} (hsound : store.IsSound)
    (hhandles : store.handles.Perm w.store.handles) : IsConsistent { w with store } where
  store := hsound
  nodup_idents := h.nodup_idents
  handles := h.handles.trans hhandles.symm
  nodup_names := h.nodup_names
  named := h.named
  ahead := h.ahead

theorem setComponents (h : w.IsConsistent) {row : Row} (hrow : w.store.row? handle = some row)
    (components : Components) :
    IsConsistent { w with store := w.store.setComponents row components } := by
  obtain ⟨hmem, -⟩ := (Store.row?_eq_some_iff h.store.nodup).mp hrow
  exact h.of_handles (h.store.setComponents hmem components)
    (Store.handles_setComponents_perm h.store.nodup hmem components)

theorem clear (w : WorldOver σ) : w.clear.IsConsistent := by
  obtain ⟨hrows, hsound⟩ := w.store.isSound_clear
  have hhandles : w.store.clear.handles = [] := by rw [Store.handles, hrows, List.map_nil]
  refine ⟨hsound, List.nodup_nil, ?_, List.nodup_nil, .nil, fun id hid => by cases hid⟩
  show [].Perm w.store.clear.handles
  rw [hhandles]

/-- Every effect of an operation keeps a world consistent. -/
theorem effect (h : w.IsConsistent) {s : WorldStep} {answer : WorldAnswer} {w' : WorldOver σ}
    (e : WorldStep.Effect w s answer w') : w'.IsConsistent := by
  cases e with
  | spawned hname =>
      exact h.register h.next_notMem hname (Nat.le_succ _) (Nat.lt_succ_self _)
  | pinned hname hid =>
      exact h.register (notMem_of_contains hid) hname (Nat.le_max_left ..) (Nat.le_max_right ..)
  | despawned hhandle hstore => exact h.forget hhandle hstore
  | inserted _ hrow => exact h.setComponents hrow _
  | removed _ hrow _ => exact h.setComponents hrow _
  | advanced dt => exact h.of_handles (h.store.advance dt) (by rw [Store.handles_advance])
  | cleared => exact clear w

end IsConsistent

end WorldOver

/-! ### What the maps tell -/

namespace WorldOver

variable {σ : Type}

/-- No map leads to an entity, none of its components can be had, and no query visits it. -/
structure Lacks (w : WorldOver σ) (id : EntityId) : Prop where
  handle : w.handle? id = none
  owner : ∀ handle, w.owner? handle ≠ some id
  name : w.name? id = none
  named : ∀ name, w.id? name ≠ some id
  components : w.components id = {}
  visits : ∀ r ∈ w.residents, r.id ≠ id

variable [HandleSupply σ] {w : WorldOver σ} {id : EntityId}

namespace IsConsistent

theorem isLive_iff (h : w.IsConsistent) (handle : Handle) :
    HandleSupply.IsLive w.store.supply handle ↔ ∃ id, w.owner? handle = some id := by
  rw [h.store.live_iff, ← h.handles.mem_iff, List.mem_map]
  simp only [h.owner?_eq_some_iff]
  constructor
  · rintro ⟨⟨id, handle⟩, hpair, rfl⟩
    exact ⟨id, hpair⟩
  · rintro ⟨id, hpair⟩
    exact ⟨_, hpair, rfl⟩

/-- Every entity is visited once. -/
theorem residents_perm (h : w.IsConsistent) : (w.residents.map Resident.id).Perm w.idents := by
  have hmap : w.residents.map Resident.id = w.store.handles.filterMap w.owner? := by
    rw [residents, List.map_filterMap, Store.handles, List.filterMap_map]
    apply List.filterMap_congr
    intro r _
    simp [Function.comp_def]
  have howners : (w.handles.map Prod.snd).filterMap w.owner? = w.idents := by
    rw [List.filterMap_map, idents, ← List.filterMap_eq_map]
    apply List.filterMap_congr
    rintro ⟨id, handle⟩ hpair
    exact h.owner?_eq_some_iff.mpr hpair
  rw [hmap, ← howners]
  exact h.handles.symm.filterMap w.owner?

theorem lacks (h : w.IsConsistent) (hid : id ∉ w.idents) : w.Lacks id := by
  -- Either map holding `id` would make it one of the idents.
  have hpair : ∀ handle, (id, handle) ∉ w.handles :=
    fun handle hmem => hid (List.mem_map.mpr ⟨_, hmem, rfl⟩)
  have hnamed : ∀ name, (name, id) ∉ w.names :=
    fun name hmem => hid (h.named.mem_iff.mp (List.mem_map.mpr ⟨_, hmem, rfl⟩))
  have hhandle : w.handle? id = none :=
    Option.eq_none_iff_forall_ne_some.mpr fun handle heq =>
      hpair handle (h.handle?_eq_some_iff.mp heq)
  refine ⟨hhandle, ?_, ?_, ?_, ?_, ?_⟩
  · intro handle heq
    exact hpair handle (h.owner?_eq_some_iff.mp heq)
  · exact Option.eq_none_iff_forall_ne_some.mpr fun name heq =>
      hnamed name (h.name?_eq_some_iff.mp heq)
  · intro name heq
    exact hnamed name (h.id?_eq_some_iff.mp heq)
  · rw [components, hhandle]
    rfl
  · rintro r hr rfl
    exact hid (h.residents_perm.mem_iff.mp (List.mem_map.mpr ⟨r, hr, rfl⟩))

/-- A new entity has no components, whatever the store had before under its handle. -/
theorem components_register (h : w.IsConsistent) (hid : id ∉ w.idents) {name : String}
    (hname : w.id? name = none) (ids : IdSource) :
    ({ w with ids }.register id name).components id = {} := by
  have hrow : w.store.spawn.2.row? w.store.spawn.1 = some ⟨w.store.spawn.1, {}⟩ := by
    rw [Store.row?_eq_some_iff h.store.spawn.2.nodup, w.store.rows_spawn_perm.mem_iff]
    exact ⟨List.mem_cons_self, rfl⟩
  rw [h.register_eq hid hname, components, handle?, List.lookup_cons_self, Option.bind_some, hrow]
  rfl

theorem components_of_entered (h : w.IsConsistent) {s : WorldStep} {w' : WorldOver σ}
    (e : WorldStep.Effect w s (.entered id) w') : w'.components id = {} := by
  cases e with
  | spawned hname => exact h.components_register h.next_notMem hname _
  | pinned hname hid => exact h.components_register (notMem_of_contains hid) hname _

/-- The entity of an identifier that is in use has a row. -/
theorem exists_row (h : w.IsConsistent) (hid : w.contains id) :
    ∃ handle row, w.handle? id = some handle ∧ w.store.row? handle = some row := by
  obtain ⟨handle, hhandle⟩ := Option.isSome_iff_exists.mp hid
  obtain ⟨row, hrow⟩ :=
    Option.isSome_iff_exists.mp (Store.row?_isSome_iff.mpr (h.mem_handles hhandle))
  exact ⟨handle, row, hhandle, hrow⟩

end IsConsistent

end WorldOver

/-! ### What is refused -/

namespace WorldStep

variable {σ : Type} {w : WorldOver σ}

/-- A new name and a new identifier to enter a world, an entity that is there to change or remove,
and a component that is there to detach. -/
def IsAllowed (w : WorldOver σ) : WorldStep → Prop
  | .spawn name => w.id? name = none
  | .spawnWithId id name => w.id? name = none ∧ w.contains id = false
  | .despawn id => w.contains id
  | .insert id _ => w.contains id
  | .remove id kind => ((w.components id).get? kind).isSome
  | .advance _ => True
  | .clear => True

theorem components_eq {id : EntityId} {handle : Handle} {row : Row}
    (hhandle : w.handle? id = some handle) (hrow : w.store.row? handle = some row) :
    w.components id = row.components := by
  simp [WorldOver.components, hhandle, hrow]

variable [HandleSupply σ]

theorem Effect.isAllowed {s : WorldStep} {answer : WorldAnswer} {w' : WorldOver σ}
    (e : Effect w s answer w') : s.IsAllowed w := by
  cases e with
  | spawned hname => exact hname
  | pinned hname hid => exact ⟨hname, hid⟩
  | despawned hhandle _ => simp [IsAllowed, WorldOver.contains, hhandle]
  | inserted hhandle _ => simp [IsAllowed, WorldOver.contains, hhandle]
  | removed hhandle hrow hcomponent =>
      simp [IsAllowed, components_eq hhandle hrow, hcomponent]
  | advanced dt => trivial
  | cleared => trivial

theorem outcome_of_isAllowed (h : w.IsConsistent) {s : WorldStep} (hs : s.IsAllowed w) :
    ∃ answer w', s.perform.outcome w = (.ok answer, w') := by
  cases s with
  | spawn name =>
      have hname : ¬(w.id? name).isSome = true := by simp [show w.id? name = none from hs]
      rw [perform, WorldM.outcome_bind, WorldM.outcome_spawn, if_neg hname]
      exact ⟨_, _, rfl⟩
  | spawnWithId id name =>
      have hname : ¬(w.id? name).isSome = true := by simp [show w.id? name = none from hs.1]
      have hid : ¬w.contains id = true := by simp [hs.2]
      rw [perform, WorldM.outcome_bind, WorldM.outcome_spawnWithId, if_neg hname, if_neg hid]
      exact ⟨_, _, rfl⟩
  | despawn id =>
      obtain ⟨handle, row, hhandle, hrow⟩ := h.exists_row hs
      rw [perform, WorldM.outcome_bind, WorldM.outcome_despawn, hhandle]
      simp only [Option.bind_some, Store.despawn, hrow]
      exact ⟨_, _, rfl⟩
  | insert id component =>
      obtain ⟨handle, row, hhandle, hrow⟩ := h.exists_row hs
      rw [perform, WorldM.outcome_bind, WorldM.outcome_insert, hhandle]
      simp only [Option.bind_some, Store.insert, hrow]
      exact ⟨_, _, rfl⟩
  | remove id kind =>
      -- a component is there only if the entity is
      obtain ⟨component, hcomponent⟩ := Option.isSome_iff_exists.mp hs
      cases hid : w.contains id with
      | false =>
          have hnone := (h.lacks (WorldOver.notMem_of_contains hid)).components
          rw [hnone] at hcomponent
          cases kind <;> cases hcomponent
      | true =>
          obtain ⟨handle, row, hhandle, hrow⟩ := h.exists_row hid
          rw [components_eq hhandle hrow] at hcomponent
          rw [perform, WorldM.outcome_bind, WorldM.outcome_remove, hhandle]
          simp only [Option.bind_some, Store.remove, hrow, Option.bind_eq_bind, hcomponent]
          exact ⟨_, _, rfl⟩
  | advance dt => exact ⟨_, _, rfl⟩
  | clear => exact ⟨_, _, rfl⟩

/-- An operation on a consistent world succeeds exactly if it is allowed. -/
theorem exists_outcome_iff (h : w.IsConsistent) (s : WorldStep) :
    (∃ answer w', s.perform.outcome w = (.ok answer, w')) ↔ s.IsAllowed w := by
  constructor
  · rintro ⟨answer, w', houtcome⟩
    exact (effect_of_outcome houtcome).isAllowed
  · exact outcome_of_isAllowed h

end WorldStep

end SceneBatch
