import SceneBatch.Proofs.ListLemmas
import SceneBatch.World.Store

/-!
# Rows of a store

A row is added at the end of a group, taken out with the last row in its place, or changed, and it
may go from one group to another with that. Up to the order of the rows it comes to this: a row in
front of the others, the rows of the other handles, or both. In a sound store (`Store.IsSound`) the
live handles are those of the rows, each of one row, and every operation keeps it so; so an
operation on a live handle finds its row.
-/

namespace SceneBatch

/-! ### Rows of one handle each -/

/-- A row stands for itself among the rows of other handles. -/
theorem perm_cons_filter_ne {rows : List Row} {row : Row} (hnodup : (rows.map Row.handle).Nodup)
    (hrow : row ∈ rows) : rows.Perm (row :: rows.filter (·.handle ≠ row.handle)) := by
  have hrows : rows.Nodup := List.Nodup.of_map Row.handle hnodup
  have hothers : (row :: rows.filter (·.handle ≠ row.handle)).Nodup :=
    List.nodup_cons.mpr ⟨by simp, hrows.filter _⟩
  rw [List.perm_ext_iff_of_nodup hrows hothers]
  intro r
  -- Handles name rows.
  have hsame : r ∈ rows → r.handle = row.handle → r = row :=
    fun hr => List.inj_on_of_nodup_map hnodup hr hrow
  simp only [List.mem_cons, List.mem_filter, decide_eq_true_eq]
  constructor
  · intro hr
    by_cases hhandle : r.handle = row.handle
    · exact .inl (hsame hr hhandle)
    · exact .inr ⟨hr, hhandle⟩
  · rintro (rfl | ⟨hr, -⟩)
    · exact hrow
    · exact hr

namespace Group

theorem swapRemove_perm {rows : List Row} {index : Nat} (h : index < rows.length) :
    (swapRemove rows index).Perm (rows.eraseIdx index) := by
  rcases List.eq_nil_or_concat' rows with rfl | ⟨front, last, rfl⟩
  · cases h
  · rw [swapRemove, List.getLast?_concat]
    dsimp only
    rw [List.length_append, List.length_singleton] at h ⊢
    -- The last row has nothing to be swapped with.
    by_cases hlast : index + 1 = front.length + 1
    · rw [if_pos hlast, Nat.succ.inj hlast, List.dropLast_concat,
        List.eraseIdx_append_of_length_le (Nat.le_refl _)]
      simp
    · have hfront : index < front.length := by omega
      rw [if_neg hlast, List.set_append_left _ _ hfront, List.dropLast_concat,
        List.eraseIdx_append_of_lt_length hfront]
      -- Otherwise the last row takes the place of the one removed.
      exact (List.set_perm_cons_eraseIdx hfront last).trans
        (List.perm_append_singleton last _).symm

/-- In a group the row of a handle is taken out from among the rows of other handles. -/
theorem rows_dropRow_perm (handle : Handle) {g : Group} (hnodup : (g.rows.map Row.handle).Nodup) :
    (g.dropRow handle).rows.Perm (g.rows.filter (·.handle ≠ handle)) := by
  unfold dropRow
  split
  · next index hindex =>
      obtain ⟨hlt, hhandle, -⟩ := List.findIdx?_eq_some_iff_getElem.mp hindex
      have hrow : g.rows[index].handle = handle := by simpa using hhandle
      have hothers := perm_cons_filter_ne hnodup (List.getElem_mem hlt)
      rw [hrow] at hothers
      -- Take the same row off both sides.
      exact (swapRemove_perm hlt).trans
        ((List.getElem_cons_eraseIdx_perm hlt).trans hothers).cons_inv
  · next hnone =>
      have hall : ∀ r ∈ g.rows, r.handle ≠ handle := by
        simpa [List.findIdx?_eq_none_iff] using hnone
      rw [List.filter_eq_self.mpr (by simpa using hall)]

theorem flatMap_addRow_perm (row : Row) (groups : List Group) :
    ((addRow row groups).flatMap rows).Perm (row :: groups.flatMap rows) := by
  induction groups with
  | nil => simp [addRow]
  | cons g rest ih =>
      rw [addRow]
      split
      · simp only [List.flatMap_cons, List.append_assoc]
        exact List.perm_middle
      · rw [List.flatMap_cons, List.flatMap_cons]
        exact (ih.append_left g.rows).trans List.perm_middle

theorem flatMap_dropRow_perm (handle : Handle) {groups : List Group}
    (hnodup : ((groups.flatMap rows).map Row.handle).Nodup) :
    ((groups.map (dropRow handle)).flatMap rows).Perm
      ((groups.flatMap rows).filter (·.handle ≠ handle)) := by
  rw [List.flatMap_map, List.filter_flatMap]
  apply List.Perm.flatMap_left
  intro g hg
  rw [List.map_flatMap] at hnodup
  exact rows_dropRow_perm handle ((List.nodup_flatMap.mp hnodup).1 g hg)

theorem flatMap_mapRows (f : Row → Row) (groups : List Group) :
    (groups.map (mapRows f)).flatMap rows = (groups.flatMap rows).map f := by
  rw [List.flatMap_map, List.map_flatMap]
  rfl

end Group

namespace Store

variable {σ : Type} {s : Store σ} {handle : Handle} {row : Row}

/-- The handles of the rows. -/
def handles (s : Store σ) : List Handle := s.rows.map Row.handle

theorem row?_eq_some_iff (hnodup : s.handles.Nodup) :
    s.row? handle = some row ↔ row ∈ s.rows ∧ row.handle = handle :=
  find?_key_eq_some_iff hnodup

theorem row?_isSome_iff : (s.row? handle).isSome ↔ handle ∈ s.handles :=
  find?_key_isSome_iff

/-- Other components make another row of the handle; those of other handles stay. -/
theorem rows_setComponents_perm (hnodup : s.handles.Nodup) (hrow : row ∈ s.rows)
    (components : Components) :
    (s.setComponents row components).rows.Perm
      ({ row with components } :: s.rows.filter (·.handle ≠ row.handle)) := by
  unfold setComponents
  -- Replaced in place within its group, or moved to the group of its new components.
  split
  · have hmap := (perm_cons_filter_ne hnodup hrow).map fun r =>
      if r.handle = row.handle then { row with components } else r
    have hothers : (s.rows.filter (·.handle ≠ row.handle)).map
        (fun r => if r.handle = row.handle then { row with components } else r) =
          s.rows.filter (·.handle ≠ row.handle) := by
      refine (List.map_congr_left fun r hr => ?_).trans (List.map_id _)
      have hne : r.handle ≠ row.handle := by simpa using (List.mem_filter.mp hr).2
      exact if_neg hne
    rw [List.map_cons, if_pos rfl, hothers] at hmap
    rw [rows, Group.flatMap_mapRows]
    exact hmap
  · exact (Group.flatMap_addRow_perm _ _).trans
      ((Group.flatMap_dropRow_perm row.handle hnodup).cons _)

theorem handles_setComponents_perm (hnodup : s.handles.Nodup) (hrow : row ∈ s.rows)
    (components : Components) : (s.setComponents row components).handles.Perm s.handles :=
  ((rows_setComponents_perm hnodup hrow components).map Row.handle).trans
    ((perm_cons_filter_ne hnodup hrow).map Row.handle).symm

theorem supply_setComponents (row : Row) (components : Components) :
    (s.setComponents row components).supply = s.supply := by
  unfold setComponents
  split <;> rfl

theorem handles_advance (s : Store σ) (dt : Float32) : (s.advance dt).handles = s.handles := by
  rw [handles, rows, advance, Group.flatMap_mapRows, List.map_map]
  rfl

variable [HandleSupply σ]

/-- The live handles are those of the rows, and each is that of one row. -/
structure IsSound (s : Store σ) : Prop where
  nodup : s.handles.Nodup
  live_iff : ∀ handle, HandleSupply.IsLive s.supply handle ↔ handle ∈ s.handles

theorem isSound_empty : (empty : Store σ).IsSound where
  nodup := List.nodup_nil
  live_iff handle := iff_of_false (HandleSupply.not_isLive_fresh handle) List.not_mem_nil

theorem isSound_clear (s : Store σ) : s.clear.rows = [] ∧ s.clear.IsSound := by
  have hrows : s.clear.rows = [] := by simp [clear, rows]
  have hhandles : s.clear.handles = [] := by rw [handles, hrows, List.map_nil]
  refine ⟨hrows, by simp [hhandles], fun handle => ?_⟩
  rw [hhandles]
  exact iff_of_false (HandleSupply.not_isLive_reset s.supply handle) List.not_mem_nil

/-- Nothing but the components has changed. -/
theorem IsSound.of_perm (h : s.IsSound) {s' : Store σ} (hsupply : s'.supply = s.supply)
    (hhandles : s'.handles.Perm s.handles) : s'.IsSound where
  nodup := hhandles.nodup_iff.mpr h.nodup
  live_iff handle := by rw [hsupply, h.live_iff, hhandles.mem_iff]

theorem IsSound.setComponents (h : s.IsSound) (hrow : row ∈ s.rows) (components : Components) :
    (s.setComponents row components).IsSound :=
  h.of_perm (supply_setComponents row components)
    (handles_setComponents_perm h.nodup hrow components)

theorem IsSound.advance (h : s.IsSound) (dt : Float32) : (s.advance dt).IsSound :=
  h.of_perm rfl (by rw [handles_advance])

theorem rows_spawn_perm (s : Store σ) : s.spawn.2.rows.Perm (⟨s.spawn.1, {}⟩ :: s.rows) :=
  Group.flatMap_addRow_perm _ _

/-- A new entity has a handle that is no other's. -/
theorem IsSound.spawn (h : s.IsSound) : s.spawn.1 ∉ s.handles ∧ s.spawn.2.IsSound := by
  have hnew : s.spawn.1 ∉ s.handles := by
    rw [← h.live_iff]
    exact HandleSupply.not_isLive_allocate s.supply
  have hhandles : s.spawn.2.handles.Perm (s.spawn.1 :: s.handles) :=
    s.rows_spawn_perm.map Row.handle
  refine ⟨hnew, hhandles.nodup_iff.mpr (List.nodup_cons.mpr ⟨hnew, h.nodup⟩), fun handle => ?_⟩
  rw [hhandles.mem_iff, List.mem_cons, ← h.live_iff]
  exact HandleSupply.isLive_allocate s.supply handle

/-- The entity of a live handle can be removed, and the others stay. -/
theorem IsSound.despawn (h : s.IsSound) (hhandle : handle ∈ s.handles) :
    ∃ s', s.despawn handle = some s' ∧ s'.IsSound ∧
      s'.rows.Perm (s.rows.filter (·.handle ≠ handle)) := by
  obtain ⟨row, hrow⟩ := Option.isSome_iff_exists.mp (row?_isSome_iff.mpr hhandle)
  obtain ⟨-, rfl⟩ := (row?_eq_some_iff h.nodup).mp hrow
  let s' : Store σ := ⟨HandleSupply.release s.supply row.handle,
    s.groups.map (Group.dropRow row.handle)⟩
  have hrows : s'.rows.Perm (s.rows.filter (·.handle ≠ row.handle)) :=
    Group.flatMap_dropRow_perm row.handle h.nodup
  have hhandles : s'.handles.Perm (s.handles.filter (· ≠ row.handle)) := by
    rw [handles, handles, List.filter_map]
    exact hrows.map Row.handle
  refine ⟨s', by simp [Store.despawn, hrow, s'], ⟨?_, fun handle => ?_⟩, hrows⟩
  · exact hhandles.nodup_iff.mpr (h.nodup.filter _)
  · rw [hhandles.mem_iff, List.mem_filter, ← h.live_iff]
    simpa [and_comm] using
      HandleSupply.isLive_release s.supply row.handle ((h.live_iff row.handle).mpr hhandle) handle

end Store

end SceneBatch
