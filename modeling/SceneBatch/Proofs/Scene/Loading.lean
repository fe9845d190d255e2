import SceneBatch.Proofs.Scene.Census
import SceneBatch.Proofs.World.Queries

/-!
# Loading scenes

A world that is made of a scene has the entities of the scene's census and no others
(`World.Houses`). Definitions enter one after the other: nothing can go wrong but that an identifier
is pinned twice (`World.houses_ofScene`). So a text that holds a scene is loaded exactly
(`Scene.LoadsExactly`).
-/

namespace SceneBatch

/-! ### Worlds of given entities -/

namespace World

open WorldOver EntityId

/-- A world has the given entities, each under its name, and no others. -/
structure Houses (w : World) (es : List (String × Resident)) : Prop where
  consistent : w.IsConsistent
  names : w.names = (es.map fun e => (e.1, e.2.id)).reverse
  living : ∀ e ∈ es, w.living? e.2.id = some e.2.components
  next : w.ids.next = highest (es.map (·.2.id)) + 1

variable {w : World} {es : List (String × Resident)} {id : EntityId} {name : String}

theorem houses_empty : Houses .empty [] where
  consistent := .empty
  names := rfl
  living e he := by cases he
  next := rfl

namespace Houses

theorem id?_eq_none_iff (h : w.Houses es) : w.id? name = none ↔ name ∉ es.map Prod.fst := by
  rw [WorldOver.id?_eq_none_iff, h.names, List.map_reverse, List.mem_reverse, List.map_map]
  rfl

theorem nodup_ids (h : w.Houses es) : (es.map (·.2.id)).Nodup := by
  have hnamed := h.consistent.nodup_named
  rw [h.names, List.map_reverse, List.nodup_reverse, List.map_map] at hnamed
  exact hnamed

theorem mem_idents_iff (h : w.Houses es) : id ∈ w.idents ↔ id ∈ es.map (·.2.id) := by
  rw [← h.consistent.named.mem_iff, h.names, List.map_reverse, List.mem_reverse, List.map_map]
  rfl

theorem contains_iff (h : w.Houses es) : w.contains id ↔ id ∈ es.map (·.2.id) :=
  WorldOver.contains_iff.trans h.mem_idents_iff

end Houses

/-! ### Attaching components -/

/-- One world is like another, but an entity has other components. -/
structure Differs (w w' : World) (id : EntityId) (components : Components) : Prop where
  consistent : w'.IsConsistent
  names : w'.names = w.names
  ids : w'.ids = w.ids
  living : ∀ id', w'.living? id' = if id' = id then some components else w.living? id'

theorem exists_insert (h : w.IsConsistent) {components : Components}
    (hid : w.living? id = some components) (component : Component) :
    ∃ w', w.insert id component = .ok w' ∧ w.Differs w' id (components.insert component) := by
  obtain ⟨row, hrow, rfl⟩ := Option.map_eq_some_iff.mp hid
  obtain ⟨handle, hhandle, hrow⟩ := Option.bind_eq_some_iff.mp hrow
  refine ⟨{ w with store := w.store.setComponents row (row.components.insert component) }, ?_,
    h.setComponents hrow _, rfl, rfl, h.living?_setComponents hhandle hrow _⟩
  rw [insert, after, WorldM.outcome_insert, hhandle, Option.bind_some, Store.insert, hrow]
  rfl

theorem exists_attach (h : w.IsConsistent) {components : Components}
    (hid : w.living? id = some components) (attached : List Component) :
    ∃ w', w.attach id attached = .ok w' ∧
      w.Differs w' id (attached.foldl Components.insert components) := by
  -- on the components: each finds the entity alive, with those before it attached
  induction attached generalizing w components with
  | nil =>
      refine ⟨w, rfl, h, rfl, rfl, fun id' => ?_⟩
      split
      · next hsame => rw [hsame, hid, List.foldl_nil]
      · rfl
  | cons component attached ih =>
      obtain ⟨w₁, hinsert, h₁⟩ := exists_insert h hid component
      have hid₁ : w₁.living? id = some (components.insert component) := by
        rw [h₁.living, if_pos rfl]
      obtain ⟨w₂, hattach, h₂⟩ := ih h₁.consistent hid₁
      refine ⟨w₂, ?_, h₂.consistent, h₂.names.trans h₁.names, h₂.ids.trans h₁.ids, fun id' => ?_⟩
      · rw [attach, List.foldlM_cons, hinsert]
        exact hattach
      · rw [h₂.living, h₁.living]
        split
        · rfl
        · rfl

/-! ### Entering entities -/

namespace Houses

variable {ids : IdSource} {d : EntityDef}

/-- A new entity gets its components, and the others keep theirs. -/
theorem exists_enter (h : w.Houses es) (hname : name ∉ es.map Prod.fst)
    (hid : id ∉ es.map (·.2.id)) (hids : ids.next = max w.ids.next (id.raw + 1)) (d : EntityDef) :
    ∃ w', attach ({ w with ids }.register id name) id d.attachments = .ok w' ∧
      w'.Houses (es ++ [(name, ⟨id, d.carried⟩)]) := by
  have hfresh : id ∉ w.idents := mt h.mem_idents_iff.mp hid
  have hfree := h.id?_eq_none_iff.mpr hname
  have hle : w.ids.next ≤ ids.next := hids ▸ Nat.le_max_left ..
  have hlt : id.raw < ids.next := hids ▸ Nat.le_max_right ..
  have hregister := h.consistent.register hfresh hfree hle hlt
  have hliving := h.consistent.living?_register hfresh hfree ids
  obtain ⟨w', hattach, h'⟩ := exists_attach hregister
    ((hliving id).trans (if_pos rfl)) d.attachments
  rw [d.foldl_attachments] at h'
  refine ⟨w', hattach, h'.consistent, ?_, ?_, ?_⟩
  · rw [h'.names, names_register hfree, h.names, List.map_append, List.reverse_append]
    rfl
  · intro e he
    rw [h'.living, hliving]
    rcases List.mem_append.mp he with he | he
    · -- an entity that was there is not the new one
      have hne : e.2.id ≠ id := fun heq => hid (List.mem_map.mpr ⟨e, he, heq⟩)
      rw [if_neg hne, if_neg hne, h.living e he]
    · rw [List.mem_singleton.mp he, if_pos rfl]
  · rw [h'.ids, List.map_append, List.map_singleton, highest_concat]
    exact hids.trans (by rw [h.next, Nat.succ_max_succ])

theorem exists_addDef_of_pinned (h : w.Houses es) (hname : name ∉ es.map Prod.fst) {raw : Nat}
    (hd : d.pinned = some raw) (hid : ⟨raw⟩ ∉ es.map (·.2.id)) :
    ∃ w', w.addDef name d = .ok w' ∧ w'.Houses (es ++ [(name, ⟨⟨raw⟩, d.carried⟩)]) := by
  have hfree : ¬(w.id? name).isSome = true := by simp [h.id?_eq_none_iff.mpr hname]
  have hnew : ¬w.contains ⟨raw⟩ = true := mt h.contains_iff.mp hid
  have hspawn : w.spawnWithId ⟨raw⟩ name =
      .ok ({ w with ids := w.ids.reserveThrough ⟨raw⟩ }.register ⟨raw⟩ name) := by
    rw [spawnWithId, after, WorldM.outcome_spawnWithId, if_neg hfree, if_neg hnew]
    rfl
  rw [addDef, hd]
  dsimp only
  rw [hspawn]
  exact h.exists_enter hname hid rfl d

/-- An identifier that is in use is refused. -/
theorem addDef_of_taken (h : w.Houses es) (hname : name ∉ es.map Prod.fst) {raw : Nat}
    (hd : d.pinned = some raw) (hid : ⟨raw⟩ ∈ es.map (·.2.id)) :
    w.addDef name d = .error (.scene s!"entity id {(EntityId.mk raw).text} already in use") := by
  have hfree : ¬(w.id? name).isSome = true := by simp [h.id?_eq_none_iff.mpr hname]
  have hspawn : w.spawnWithId ⟨raw⟩ name =
      .error (.scene s!"entity id {(EntityId.mk raw).text} already in use") := by
    rw [spawnWithId, after, WorldM.outcome_spawnWithId, if_neg hfree,
      if_pos (h.contains_iff.mpr hid)]
    rfl
  rw [addDef, hd]
  dsimp only
  rw [hspawn]
  rfl

theorem exists_addDef_of_unpinned (h : w.Houses es) (hname : name ∉ es.map Prod.fst)
    (hd : d.pinned = none) :
    ∃ w', w.addDef name d = .ok w' ∧
      w'.Houses (es ++ [(name, ⟨⟨highest (es.map (·.2.id)) + 1⟩, d.carried⟩)]) := by
  have hfree : ¬(w.id? name).isSome = true := by simp [h.id?_eq_none_iff.mpr hname]
  have hspawn : w.spawn name =
      .ok (⟨w.ids.next⟩, { w with ids := ⟨w.ids.next + 1⟩ }.register ⟨w.ids.next⟩ name) := by
    rw [spawn, after, WorldM.outcome_spawn, if_neg hfree]
  have hid : ⟨w.ids.next⟩ ∉ es.map (·.2.id) := mt h.mem_idents_iff.mpr h.consistent.next_notMem
  rw [addDef, hd]
  dsimp only
  rw [hspawn, ← h.next]
  exact h.exists_enter hname hid (Nat.max_eq_right (Nat.le_succ _)).symm d

/-! ### Runs over definitions -/

variable {defs : List (String × EntityDef)}

/-- The next of distinct names is new, and with it among the others the rest are so too. -/
theorem notMem_and_nodup_of_cons {e : String × EntityDef}
    (hnames : (es.map Prod.fst ++ (e :: defs).map Prod.fst).Nodup) (r : Resident) :
    e.1 ∉ es.map Prod.fst ∧ ((es ++ [(e.1, r)]).map Prod.fst ++ defs.map Prod.fst).Nodup := by
  rw [List.map_cons, List.append_cons] at hnames
  refine ⟨fun hmem => ?_, by rwa [List.map_append]⟩
  exact (List.nodup_append.mp (List.nodup_append.mp hnames).1).2.2 e.1 hmem e.1
    (List.mem_singleton_self _) rfl

/-- Pinned definitions enter with their identifiers if these are distinct. Else one that is not is
refused. -/
theorem run_pinned (h : w.Houses es) (hpinned : ∀ e ∈ defs, e.2.pinned.isSome)
    (hnames : (es.map Prod.fst ++ defs.map Prod.fst).Nodup) :
    (∃ w', defs.foldlM (fun w e => w.addDef e.1 e.2) w = .ok w' ∧
        w'.Houses (es ++ defs.filterMap SceneFile.pinnedResident?)) ∨
      ∃ id, 2 ≤ ((es ++ defs.filterMap SceneFile.pinnedResident?).map (·.2.id)).count id ∧
        defs.foldlM (fun w e => w.addDef e.1 e.2) w =
          .error (.scene s!"entity id {id.text} already in use") := by
  induction defs generalizing w es with
  | nil => exact .inl ⟨w, rfl, by simpa using h⟩
  | cons e defs ih =>
      obtain ⟨raw, hraw⟩ := Option.isSome_iff_exists.mp (hpinned e List.mem_cons_self)
      obtain ⟨hname, hnames'⟩ := notMem_and_nodup_of_cons hnames ⟨⟨raw⟩, e.2.carried⟩
      have hresident : SceneFile.pinnedResident? e = some (e.1, ⟨⟨raw⟩, e.2.carried⟩) := by
        rw [SceneFile.pinnedResident?, hraw, Option.map_some]
      rw [List.filterMap_cons_some hresident]
      -- the pinned identifier is taken, or the definition enters and the rest follow it
      by_cases hid : ⟨raw⟩ ∈ es.map (·.2.id)
      · refine .inr ⟨⟨raw⟩, ?_, ?_⟩
        · -- once among those that entered before, and once here
          have honce := List.one_le_count_iff.mpr hid
          rw [List.map_append, List.count_append, List.map_cons, List.count_cons_self]
          omega
        · rw [List.foldlM_cons, h.addDef_of_taken hname hraw hid]
          rfl
      · obtain ⟨w₁, hadd, h₁⟩ := h.exists_addDef_of_pinned hname hraw hid
        have hrest := ih h₁ (fun e he => hpinned e (List.mem_cons_of_mem _ he)) hnames'
        rw [← List.append_cons] at hrest
        rw [List.foldlM_cons, hadd]
        exact hrest

/-- Definitions that are not pinned enter with the identifiers that follow. -/
theorem run_unpinned (h : w.Houses es) (hunpinned : ∀ e ∈ defs, e.2.pinned = none)
    (hnames : (es.map Prod.fst ++ defs.map Prod.fst).Nodup) :
    ∃ w', defs.foldlM (fun w e => w.addDef e.1 e.2) w = .ok w' ∧
      w'.Houses (es ++ SceneFile.numbered (highest (es.map (·.2.id)) + 1) defs) := by
  induction defs generalizing w es with
  | nil => exact ⟨w, rfl, by simpa [SceneFile.numbered] using h⟩
  | cons e defs ih =>
      obtain ⟨hname, hnames'⟩ :=
        notMem_and_nodup_of_cons hnames ⟨⟨highest (es.map (·.2.id)) + 1⟩, e.2.carried⟩
      obtain ⟨w₁, hadd, h₁⟩ :=
        h.exists_addDef_of_unpinned hname (hunpinned e List.mem_cons_self)
      obtain ⟨w₂, hrest, h₂⟩ :=
        ih h₁ (fun e he => hunpinned e (List.mem_cons_of_mem _ he)) hnames'
      refine ⟨w₂, ?_, ?_⟩
      · rw [List.foldlM_cons, hadd]
        exact hrest
      · -- the next identifier is now the highest
        rw [List.map_append, List.map_singleton, highest_concat,
          Nat.max_eq_right (Nat.le_succ _), ← List.append_cons] at h₂
        exact h₂

end Houses

/-- The world of a scene has the entities that the scene says. Only an identifier that is pinned
twice can be in the way of that. -/
theorem houses_ofScene {s : SceneFile} (hs : s.IsOrdered) :
    (∃ w, ofScene s = .ok w ∧ w.Houses s.census) ∨
      ∃ id, 2 ≤ s.pinnedIds.count id ∧
        ofScene s = .error (.scene s!"entity id {id.text} already in use") := by
  -- one pass over the pinned definitions and then the others
  have hpass : ofScene s =
      (s.pinned ++ s.unpinned).foldlM (fun w e => w.addDef e.1 e.2) .empty := by
    rw [ofScene, List.partition_eq_filter_filter, SceneFile.pinned, SceneFile.unpinned]
    simp only [Function.comp_def, Option.not_isSome]
  have hnames : ((s.pinned ++ s.unpinned).map Prod.fst).Nodup :=
    (s.pinned_append_unpinned_perm.map Prod.fst).nodup_iff.mpr hs.nodup_names
  have hpinned : ∀ e ∈ s.pinned, e.2.pinned.isSome := fun e he => (List.mem_filter.mp he).2
  have hunpinned : ∀ e ∈ s.unpinned, e.2.pinned = none := fun e he =>
    Option.isNone_iff_eq_none.mp (List.mem_filter.mp he).2
  rw [List.map_append] at hnames
  rw [hpass, List.foldlM_append]
  -- only the first pass can fail; the second picks identifiers that are free
  rcases houses_empty.run_pinned hpinned (List.nodup_append.mp hnames).1 with
    ⟨w₁, hrun, h₁⟩ | ⟨id, hid, hrun⟩
  · rw [List.nil_append] at h₁
    obtain ⟨w₂, hrun', h₂⟩ := h₁.run_unpinned hunpinned (by rwa [s.map_fst_pinned])
    rw [s.map_id_pinned] at h₂
    refine .inl ⟨w₂, ?_, h₂⟩
    rw [hrun]
    exact hrun'
  · refine .inr ⟨id, ?_, ?_⟩
    · rwa [List.nil_append, s.map_id_pinned] at hid
    · rw [hrun]
      rfl

/-! ### What the world of a scene shows -/

/-- Queries visit the entity of a definition as it is defined. One with a model is visited once: by
the query of the animated if it has a clock, and by the other if not. One with a light is visited
once by the query of lights. -/
structure Visits (w : World) (id : EntityId) (d : EntityDef) : Prop where
  still : ∀ m, d.components.mesh = some m → d.components.playback = none →
    ∃ t, d.carried.transform = some t ∧ w.staticMeshes.filter (·.id == id) = [⟨id, t, m⟩] ∧
      w.animatedMeshes.filter (·.id == id) = []
  animated : ∀ m p, d.components.mesh = some m → d.components.playback = some p →
    ∃ t, d.carried.transform = some t ∧ w.staticMeshes.filter (·.id == id) = [] ∧
      w.animatedMeshes.filter (·.id == id) = [⟨id, t, m, p⟩]
  lit : ∀ l, d.components.light = some l →
    ∃ t, d.carried.transform = some t ∧ w.lights.filter (·.id == id) = [⟨id, t, l⟩]

theorem visits_of_components {d : EntityDef} (h : w.IsConsistent)
    (hid : w.components id = d.carried) : w.Visits id d := by
  rcases d with ⟨_, ⟨t, m, p, l⟩⟩
  refine ⟨?_, ?_, ?_⟩
  · rintro m ⟨⟩ ⟨⟩
    rw [h.filter_staticMeshes, h.filter_animatedMeshes, hid]
    cases t with
    | none => exact ⟨_, rfl, rfl, rfl⟩
    | some t => exact ⟨t, rfl, rfl, rfl⟩
  · rintro m p ⟨⟩ ⟨⟩
    rw [h.filter_staticMeshes, h.filter_animatedMeshes, hid]
    cases t with
    | none => exact ⟨_, rfl, rfl, rfl⟩
    | some t => exact ⟨t, rfl, rfl, rfl⟩
  · -- A light is visited whatever transform or mesh stands beside it.
    rintro l ⟨⟩
    rw [h.filter_lights, hid]
    rcases t with _ | t <;> rcases m with _ | m
    all_goals exact ⟨_, rfl, rfl⟩

/-- A world has one entity for each definition of a scene, under its name, and no others. Pinned
ones have their identifiers, and the others those that follow the highest pinned one. Each carries
what its definition lists, and queries visit it so. -/
structure Realizes (w : World) (s : SceneFile) : Prop where
  count : w.count = s.entities.length
  named : ∀ e ∈ s.entities, ∃ id, w.id? e.1 = some id ∧ w.name? id = some e.1 ∧ w.contains id
  only : ∀ id, w.contains id → ∃ e ∈ s.entities, w.id? e.1 = some id
  pinned : ∀ e ∈ s.entities, ∀ raw, e.2.pinned = some raw → w.id? e.1 = some ⟨raw⟩
  numbered : ∀ k e, s.unpinned[k]? = some e →
    w.id? e.1 = some ⟨highest s.pinnedIds + 1 + k⟩
  carried : ∀ e ∈ s.entities, ∀ id, w.id? e.1 = some id → w.components id = e.2.carried
  visited : ∀ e ∈ s.entities, ∀ id, w.id? e.1 = some id → w.Visits id e.2

theorem Houses.id?_eq_some (h : w.Houses es) {e : String × Resident} (he : e ∈ es) :
    w.id? e.1 = some e.2.id := by
  rw [h.consistent.id?_eq_some_iff, h.names, List.mem_reverse]
  exact List.mem_map.mpr ⟨e, he, rfl⟩

theorem Houses.realizes {s : SceneFile} (h : w.Houses s.census) : w.Realizes s := by
  -- the census says under which identifier a definition entered
  have hcarried : ∀ e ∈ s.entities, ∀ id, w.id? e.1 = some id → w.components id = e.2.carried := by
    intro e he id hid
    obtain ⟨id', hmem⟩ := s.exists_mem_census he
    cases hid.symm.trans (h.id?_eq_some hmem)
    rw [components_eq_getD, h.living _ hmem, Option.getD_some]
  refine ⟨?_, ?_, ?_, ?_, ?_, hcarried, ?_⟩
  · rw [WorldOver.count, h.names, List.length_reverse, List.length_map, s.length_census]
  · intro e he
    obtain ⟨id, hmem⟩ := s.exists_mem_census he
    have hid := h.id?_eq_some hmem
    refine ⟨id, hid, ?_, h.contains_iff.mpr (List.mem_map.mpr ⟨_, hmem, rfl⟩)⟩
    rwa [h.consistent.name?_eq_some_iff, ← h.consistent.id?_eq_some_iff]
  · -- whoever is alive is in the census
    intro id hid
    obtain ⟨r, hr, rfl⟩ := List.mem_map.mp (h.contains_iff.mp hid)
    obtain ⟨e, he, hname⟩ := s.exists_entity_of_mem_census hr
    exact ⟨e, he, hname ▸ h.id?_eq_some hr⟩
  · intro e he raw hraw
    exact h.id?_eq_some (s.mem_census_iff.mpr (.inl ⟨e, he, raw, hraw, rfl⟩))
  · intro k e hk
    exact h.id?_eq_some (s.mem_census_iff.mpr (.inr ⟨k, e, hk, rfl⟩))
  · intro e he id hid
    exact visits_of_components h.consistent (hcarried e he id hid)

end World

namespace Scene

/-- What becomes of a text that holds a scene. It has a world if and only if no identifier is pinned
twice, and this is that of the scene; else it is refused for such an identifier. -/
structure LoadsExactly (text : String) (s : SceneFile) : Prop where
  ordered : s.IsOrdered
  succeeds_iff : (∃ r, ofText text = .ok r) ↔ s.pinnedIds.Nodup
  realizes : ∀ r, ofText text = .ok r → r.value.2 = s ∧ r.value.1.Realizes s
  refuses : ∀ fault, ofText text = .error fault →
    ∃ id, 2 ≤ s.pinnedIds.count id ∧ fault = .scene s!"entity id {id.text} already in use"

/-- Every text that holds a scene is loaded exactly. -/
theorem loadsExactly {text : String} {s : SceneFile} (h : SceneFile.ofText? text = some s) :
    LoadsExactly text s := by
  have hordered := SceneFile.isOrdered_of_ofText? h
  rcases World.houses_ofScene hordered with ⟨w, hw, hhouses⟩ | ⟨id, hid, hrefused⟩
  · obtain ⟨r, hr, hvalue⟩ : ∃ r, ofText text = .ok r ∧ r.value = (w, s) := by
      rw [ofText, h]
      dsimp only
      rw [hw]
      exact ⟨_, rfl, rfl⟩
    -- the world has no identifier twice, and the pinned ones are among its own
    have hnodup : s.pinnedIds.Nodup := by
      have hids := hhouses.nodup_ids
      rw [SceneFile.census, List.map_append, s.map_id_pinned] at hids
      exact (List.nodup_append.mp hids).1
    refine ⟨hordered, iff_of_true ⟨r, hr⟩ hnodup, ?_, ?_⟩
    · intro r' hr'
      cases hr.symm.trans hr'
      rw [hvalue]
      exact ⟨rfl, hhouses.realizes⟩
    · intro fault hfault
      cases hr.symm.trans hfault
  · -- some identifier is pinned twice, so there is no world
    have htext : ofText text = .error (.scene s!"entity id {id.text} already in use") := by
      rw [ofText, h]
      dsimp only
      rw [hrefused]
      rfl
    refine ⟨hordered, iff_of_false ?_ ?_, ?_, ?_⟩
    · rintro ⟨r, hr⟩
      cases htext.symm.trans hr
    · intro hnodup
      exact absurd (List.nodup_iff_count_le_one.mp hnodup id) (Nat.not_le_of_lt hid)
    · intro r hr
      cases htext.symm.trans hr
    · intro fault hfault
      cases htext.symm.trans hfault
      exact ⟨id, hid, rfl⟩

/-- The fox and the gate have the identifiers that they pin, and the crate and the sun those behind
the higher one. -/
theorem courtyard_loadsExactly :
    let text := "\n".intercalate ["[scene]", "name = \"courtyard\"", "[entities.gate]", "id = 4",
      "[entities.crate]", "mesh = \x7b model = \"crate.glb\" \x7d", "[entities.fox]", "id = 9",
      "[entities.sun]", "light = \x7b\x7d"]
    ∃ s, SceneFile.ofText? text = some s ∧
      s.census.map (fun e => (e.1, e.2.id.raw)) =
        [("fox", 9), ("gate", 4), ("crate", 10), ("sun", 11)] ∧
      LoadsExactly text s := by
  intro text
  have hread : (SceneFile.ofText? text).map (fun s => s.census.map fun e => (e.1, e.2.id.raw)) =
      some [("fox", 9), ("gate", 4), ("crate", 10), ("sun", 11)] := by decide +kernel
  obtain ⟨s, hs, hcensus⟩ := Option.map_eq_some_iff.mp hread
  exact ⟨s, hs, hcensus, loadsExactly hs⟩

end Scene

end SceneBatch
