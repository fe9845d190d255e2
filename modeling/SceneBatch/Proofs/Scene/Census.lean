import SceneBatch.Proofs.Scene.Entities
import SceneBatch.Proofs.World.Identifiers
import SceneBatch.Scene.Load
import SceneBatch.World.Query

/-!
# What a scene says

A scene tells which entities its world is to have (`SceneFile.census`), one for each definition: the
pinned ones with their identifiers, and the others with those that follow the highest pinned one, in
the order of their names. Each has the components that its definition lists, and a transform if it
needs one (`EntityDef.carried`).
-/

namespace SceneBatch

/-- The components of an entity as its definition lists them. One that is drawn or lights and has no
transform gets the identity. -/
def EntityDef.carried (d : EntityDef) : Components :=
  { d.components with
    transform :=
      if d.components.transform.isNone ∧ (d.components.mesh.isSome ∨ d.components.light.isSome) then
        some .identity
      else d.components.transform }

theorem EntityDef.foldl_attachments (d : EntityDef) :
    d.attachments.foldl Components.insert {} = d.carried := by
  rcases d with ⟨_, ⟨_ | t, _ | m, _ | p, _ | l⟩⟩
  all_goals rfl

/-! ### The census -/

namespace SceneFile

/-- The entity of a pinned definition. -/
def pinnedResident? (e : String × EntityDef) : Option (String × Resident) :=
  e.2.pinned.map fun raw => (e.1, ⟨⟨raw⟩, e.2.carried⟩)

/-- The entities of definitions that are numbered from `first` on. -/
def numbered (first : Nat) (defs : List (String × EntityDef)) : List (String × Resident) :=
  (defs.zipIdx first).map fun (e, raw) => (e.1, ⟨⟨raw⟩, e.2.carried⟩)

variable (s : SceneFile)

/-- The identifiers that a scene pins. -/
def pinnedIds : List EntityId := s.entities.filterMap fun e => e.2.pinned.map EntityId.mk

/-- The definitions that pin their identifier, in the order of their names. -/
def pinned : List (String × EntityDef) := s.entities.filter (·.2.pinned.isSome)

/-- The definitions that do not pin their identifier, in the order of their names. -/
def unpinned : List (String × EntityDef) := s.entities.filter (·.2.pinned.isNone)

/-- The entities of a scene: pinned ones have their identifiers, and the others follow the highest
of these. -/
def census : List (String × Resident) :=
  s.pinned.filterMap pinnedResident? ++ numbered (EntityId.highest s.pinnedIds + 1) s.unpinned

theorem map_id_pinned : (s.pinned.filterMap pinnedResident?).map (·.2.id) = s.pinnedIds := by
  rw [List.map_filterMap, pinned, List.filterMap_filter, pinnedIds]
  apply List.filterMap_congr
  intro e _
  rw [pinnedResident?]
  cases e.2.pinned with
  | none => rfl
  | some raw => rfl

theorem map_fst_pinned :
    (s.pinned.filterMap pinnedResident?).map Prod.fst = s.pinned.map Prod.fst := by
  rw [List.map_filterMap, ← List.filterMap_eq_map]
  apply List.filterMap_congr
  intro e he
  obtain ⟨raw, hraw⟩ := Option.isSome_iff_exists.mp (List.mem_filter.mp he).2
  rw [pinnedResident?, hraw]
  rfl

theorem pinned_append_unpinned_perm : (s.pinned ++ s.unpinned).Perm s.entities := by
  have hunpinned : s.unpinned = s.entities.filter fun e => !e.2.pinned.isSome := by
    simp only [unpinned, Option.not_isSome]
  rw [hunpinned]
  exact List.filter_append_perm _ s.entities

theorem mem_numbered_iff {first : Nat} {defs : List (String × EntityDef)}
    {r : String × Resident} :
    r ∈ numbered first defs ↔
      ∃ k e, defs[k]? = some e ∧ r = (e.1, ⟨⟨first + k⟩, e.2.carried⟩) := by
  simp only [numbered, List.mem_iff_getElem?, List.getElem?_map, List.getElem?_zipIdx,
    Option.map_map, Option.map_eq_some_iff]
  refine exists_congr fun k => exists_congr fun e => and_congr_right fun _ => ?_
  exact eq_comm

theorem mem_census_iff {r : String × Resident} :
    r ∈ s.census ↔
      (∃ e ∈ s.entities, ∃ raw, e.2.pinned = some raw ∧ r = (e.1, ⟨⟨raw⟩, e.2.carried⟩)) ∨
        ∃ k e, s.unpinned[k]? = some e ∧
          r = (e.1, ⟨⟨EntityId.highest s.pinnedIds + 1 + k⟩, e.2.carried⟩) := by
  rw [census, List.mem_append, mem_numbered_iff, List.mem_filterMap]
  -- The numbered half is that of `mem_numbered_iff`; left are the pinned ones.
  refine or_congr_left ?_
  constructor
  · rintro ⟨e, he, hr⟩
    obtain ⟨raw, hraw, rfl⟩ := Option.map_eq_some_iff.mp hr
    exact ⟨e, (List.mem_filter.mp he).1, raw, hraw, rfl⟩
  · rintro ⟨e, he, raw, hraw, rfl⟩
    refine ⟨e, List.mem_filter.mpr ⟨he, by rw [hraw]; rfl⟩, ?_⟩
    rw [pinnedResident?, hraw, Option.map_some]

theorem length_census : s.census.length = s.entities.length := by
  have hpinned := congrArg List.length s.map_fst_pinned
  rw [List.length_map, List.length_map] at hpinned
  rw [census, List.length_append, hpinned, numbered, List.length_map, List.length_zipIdx,
    ← List.length_append]
  exact s.pinned_append_unpinned_perm.length_eq

/-- Each definition has its entity in the census. -/
theorem exists_mem_census {e : String × EntityDef} (he : e ∈ s.entities) :
    ∃ id, (e.1, ⟨id, e.2.carried⟩) ∈ s.census := by
  cases hraw : e.2.pinned with
  | some raw => exact ⟨_, s.mem_census_iff.mpr (.inl ⟨e, he, raw, hraw, rfl⟩)⟩
  | none =>
      have hmem : e ∈ s.unpinned := List.mem_filter.mpr ⟨he, by rw [hraw]; rfl⟩
      obtain ⟨k, hk⟩ := List.mem_iff_getElem?.mp hmem
      exact ⟨_, s.mem_census_iff.mpr (.inr ⟨k, e, hk, rfl⟩)⟩

/-- Each entity of the census is that of a definition. -/
theorem exists_entity_of_mem_census {r : String × Resident} (hr : r ∈ s.census) :
    ∃ e ∈ s.entities, r.1 = e.1 := by
  rcases s.mem_census_iff.mp hr with ⟨e, he, raw, -, rfl⟩ | ⟨k, e, hk, rfl⟩
  · exact ⟨e, he, rfl⟩
  · exact ⟨e, (List.mem_filter.mp (List.mem_of_getElem? hk)).1, rfl⟩

variable {s}

theorem IsOrdered.nodup_names (h : s.IsOrdered) : (s.entities.map Prod.fst).Nodup :=
  List.pairwise_map.mpr (h.names.imp ne_of_lt)

end SceneFile

end SceneBatch
