import SceneBatch.Proofs.World.Maps

/-!
# Components of entities

Each operation of a store is told by the rows that are found after it (`Store.row?_spawn` and the
others), and each operation of a consistent world by the components that its entities have after it
(`WorldOver.living?_register` and the others): one entity enters, leaves or has its components set,
and the rest have what they had, however the rows moved and wherever the handles come from. The
residents of a world are its living entities with these components
(`WorldOver.IsConsistent.mem_residents_iff`).
-/

namespace SceneBatch

/-! ### Components of one kind -/

/-- The kind of a component. -/
def Component.kind : Component → ComponentKind
  | .transform _ => .transform
  | .mesh _ => .mesh
  | .playback _ => .playback
  | .light _ => .light

/-- What becomes of a component when `dt` seconds pass: a clock that is enabled moves on by as many
seconds times its speed, and nothing else takes notice. -/
def Component.advance (dt : Float32) : Component → Component
  | .playback ⟨true, speed, time⟩ => .playback ⟨true, speed, time + dt * speed⟩
  | component => component

namespace Components

theorem get?_insert (c : Components) (component : Component) (kind : ComponentKind) :
    (c.insert component).get? kind = if component.kind = kind then some component
      else c.get? kind := by
  cases component <;> cases kind <;> rfl

theorem get?_erase (c : Components) (kind kind' : ComponentKind) :
    (c.erase kind).get? kind' = if kind = kind' then none else c.get? kind' := by
  cases kind <;> cases kind' <;> rfl

theorem get?_advance (c : Components) (dt : Float32) (kind : ComponentKind) :
    (c.advance dt).get? kind = (c.get? kind).map (Component.advance dt) := by
  rcases c with ⟨_ | t, _ | m, _ | ⟨_ | _, speed, time⟩, _ | l⟩ <;> cases kind <;> rfl

@[simp] theorem get?_empty (kind : ComponentKind) : ({} : Components).get? kind = none := by
  cases kind <;> rfl

end Components

/-! ### Rows -/

namespace Store

variable {σ : Type} {s s' : Store σ} {row : Row}

/-- A row that is put among the rows of other handles is found, and they are too. -/
theorem row?_of_perm_cons (hnodup : s.handles.Nodup)
    (hrows : s'.rows.Perm (row :: s.rows.filter (·.handle ≠ row.handle))) (handle : Handle) :
    s'.row? handle = if handle = row.handle then some row else s.row? handle := by
  have hothers : (s.rows.filter (·.handle ≠ row.handle)).map Row.handle =
      s.handles.filter (· ≠ row.handle) := by
    rw [handles, List.filter_map]
    rfl
  -- handles stay distinct, so a row is found by being among the rows
  have hnodup' : s'.handles.Nodup := by
    have hhandles := hrows.map Row.handle
    rw [List.map_cons, hothers] at hhandles
    exact hhandles.nodup_iff.mpr (List.nodup_cons.mpr ⟨by simp, hnodup.filter _⟩)
  apply Option.ext
  intro r
  rw [row?_eq_some_iff hnodup', hrows.mem_iff, List.mem_cons, List.mem_filter]
  by_cases hhandle : handle = row.handle
  · -- the handle of the new row
    rw [if_pos hhandle, hhandle]
    constructor
    · rintro ⟨rfl | ⟨-, hne⟩, hr⟩
      · rfl
      · simp [hr] at hne
    · intro hr
      cases hr
      exact ⟨.inl rfl, rfl⟩
  · -- any other
    rw [if_neg hhandle, row?_eq_some_iff hnodup]
    constructor
    · rintro ⟨rfl | ⟨hr, -⟩, rfl⟩
      · exact absurd rfl hhandle
      · exact ⟨hr, rfl⟩
    · rintro ⟨hr, rfl⟩
      exact ⟨.inr ⟨hr, by simpa using hhandle⟩, rfl⟩

theorem row?_setComponents (hnodup : s.handles.Nodup) (hrow : row ∈ s.rows)
    (components : Components) (handle : Handle) :
    (s.setComponents row components).row? handle =
      if handle = row.handle then some { row with components } else s.row? handle :=
  row?_of_perm_cons hnodup (rows_setComponents_perm hnodup hrow components) handle

theorem row?_advance (s : Store σ) (dt : Float32) (handle : Handle) :
    (s.advance dt).row? handle =
      (s.row? handle).map fun r => { r with components := r.components.advance dt } := by
  rw [row?, rows, advance, Group.flatMap_mapRows, List.find?_map]
  rfl

variable [HandleSupply σ]

theorem IsSound.row?_spawn (h : s.IsSound) (handle : Handle) :
    s.spawn.2.row? handle =
      if handle = s.spawn.1 then some ⟨s.spawn.1, {}⟩ else s.row? handle := by
  have hothers : s.rows.filter (·.handle ≠ s.spawn.1) = s.rows := by
    rw [List.filter_eq_self]
    intro r hr
    have hne : r.handle ≠ s.spawn.1 := fun heq =>
      h.spawn.1 (List.mem_map.mpr ⟨r, hr, heq⟩)
    simp [hne]
  have hrows : s.spawn.2.rows.Perm
      ((⟨s.spawn.1, {}⟩ : Row) :: s.rows.filter (·.handle ≠ s.spawn.1)) := by
    rw [hothers]
    exact s.rows_spawn_perm
  exact row?_of_perm_cons h.nodup hrows handle

theorem IsSound.row?_despawn (h : s.IsSound) {handle : Handle}
    (hstore : s.despawn handle = some s') (handle' : Handle) :
    s'.row? handle' = if handle' = handle then none else s.row? handle' := by
  have hhandle : handle ∈ s.handles := by
    obtain ⟨row, hrow, -⟩ := Option.bind_eq_some_iff.mp hstore
    exact row?_isSome_iff.mp (Option.isSome_iff_exists.mpr ⟨row, hrow⟩)
  obtain ⟨s'', hstore', hsound, hrows⟩ := h.despawn hhandle
  cases hstore'.symm.trans hstore
  -- a row is found if and only if it is one of the rows, and despawning drops one of these
  apply Option.ext
  intro r
  rw [row?_eq_some_iff hsound.nodup, hrows.mem_iff, List.mem_filter]
  by_cases hsame : handle' = handle
  · subst hsame
    rw [if_pos rfl]
    constructor
    · rintro ⟨⟨-, hne⟩, hr⟩
      simp [hr] at hne
    · intro hr
      cases hr
  · rw [if_neg hsame, row?_eq_some_iff h.nodup]
    constructor
    · rintro ⟨⟨hr, -⟩, rfl⟩
      exact ⟨hr, rfl⟩
    · rintro ⟨hr, rfl⟩
      exact ⟨⟨hr, by simpa using hsame⟩, rfl⟩

end Store

/-! ### Living entities -/

namespace WorldOver

variable {σ : Type} {w : WorldOver σ} {id : EntityId} {handle : Handle} {row : Row}

/-- The components of an entity, if it is alive. -/
def living? (w : WorldOver σ) (id : EntityId) : Option Components :=
  ((w.handle? id).bind w.store.row?).map Row.components

theorem components_eq_getD (w : WorldOver σ) (id : EntityId) :
    w.components id = (w.living? id).getD {} := rfl

theorem living?_advance (w : WorldOver σ) (dt : Float32) (id : EntityId) :
    (w.advance dt).living? id = (w.living? id).map (·.advance dt) := by
  show ((w.handle? id).bind (w.store.advance dt).row?).map Row.components = _
  rw [living?]
  cases w.handle? id with
  | none => rfl
  | some handle =>
      rw [Option.bind_some, Option.bind_some, Store.row?_advance, Option.map_map, Option.map_map]
      rfl

variable [HandleSupply σ]

theorem living?_clear (w : WorldOver σ) (id : EntityId) : w.clear.living? id = none := rfl

namespace IsConsistent

/-- No two entities have one handle. -/
theorem handle?_injective (h : w.IsConsistent) {id' : EntityId}
    (hhandle : w.handle? id = some handle) (hhandle' : w.handle? id' = some handle) : id' = id := by
  have hsame := List.inj_on_of_nodup_map h.nodup_handles
    (h.handle?_eq_some_iff.mp hhandle') (h.handle?_eq_some_iff.mp hhandle) rfl
  exact congrArg Prod.fst hsame

theorem living?_register (h : w.IsConsistent) (hid : id ∉ w.idents) {name : String}
    (hname : w.id? name = none) (ids : IdSource) (id' : EntityId) :
    ({ w with ids }.register id name).living? id' =
      if id' = id then some {} else w.living? id' := by
  rw [h.register_eq hid hname]
  by_cases hsame : id' = id
  · subst hsame
    rw [if_pos rfl, living?, handle?, List.lookup_cons_self, Option.bind_some, h.store.row?_spawn,
      if_pos rfl]
    rfl
  · rw [if_neg hsame]
    show ((((id, w.store.spawn.1) :: w.handles).lookup id').bind w.store.spawn.2.row?).map
      Row.components = _
    rw [List.lookup_cons, beq_eq_false_iff_ne.mpr hsame, living?, handle?]
    cases hhandle : w.handles.lookup id' with
    | none => rfl
    | some handle =>
        -- the handle is in use, so it is not the new one
        have hne : handle ≠ w.store.spawn.1 := by
          rintro rfl
          exact h.store.spawn.1 (h.mem_handles hhandle)
        dsimp only
        rw [Option.bind_some, Option.bind_some, h.store.row?_spawn, if_neg hne]

theorem living?_forget (h : w.IsConsistent) {store : Store σ} (hhandle : w.handle? id = some handle)
    (hstore : w.store.despawn handle = some store) (id' : EntityId) :
    ({ w with store }.forget id).living? id' = if id' = id then none else w.living? id' := by
  show (((w.handles.filter (·.1 ≠ id)).lookup id').bind store.row?).map Row.components = _
  rw [lookup_filter_ne]
  by_cases hsame : id' = id
  · rw [if_pos hsame, if_pos hsame]
    rfl
  · rw [if_neg hsame, if_neg hsame, living?, handle?]
    cases hhandle' : w.handles.lookup id' with
    | none => rfl
    | some handle' =>
        -- Two entities never share a handle, so dropping the one row keeps the other.
        have hne : handle' ≠ handle := by
          rintro rfl
          exact hsame (h.handle?_injective hhandle hhandle')
        rw [Option.bind_some, Option.bind_some, h.store.row?_despawn hstore, if_neg hne]

theorem living?_setComponents (h : w.IsConsistent) (hhandle : w.handle? id = some handle)
    (hrow : w.store.row? handle = some row) (components : Components) (id' : EntityId) :
    living? { w with store := w.store.setComponents row components } id' =
      if id' = id then some components else w.living? id' := by
  obtain ⟨hmem, rfl⟩ := (Store.row?_eq_some_iff h.store.nodup).mp hrow
  show ((w.handle? id').bind (w.store.setComponents row components).row?).map Row.components = _
  by_cases hsame : id' = id
  · rw [if_pos hsame, hsame, hhandle, Option.bind_some,
      Store.row?_setComponents h.store.nodup hmem, if_pos rfl]
    rfl
  · rw [if_neg hsame, living?]
    cases hhandle' : w.handle? id' with
    | none => rfl
    | some handle' =>
        -- Another entity has another handle, hence another row.
        have hne : handle' ≠ row.handle := by
          rintro rfl
          exact hsame (h.handle?_injective hhandle hhandle')
        rw [Option.bind_some, Option.bind_some, Store.row?_setComponents h.store.nodup hmem,
          if_neg hne]

/-- The residents are the living entities with their components. -/
theorem mem_residents_iff (h : w.IsConsistent) {r : Resident} :
    r ∈ w.residents ↔ w.living? r.id = some r.components := by
  rw [residents, List.mem_filterMap, living?, Option.map_eq_some_iff]
  simp only [Option.bind_eq_some_iff, h.handle?_eq_some_iff,
    Store.row?_eq_some_iff h.store.nodup]
  constructor
  · rintro ⟨row, hrow, hr⟩
    obtain ⟨id, howner, rfl⟩ := Option.map_eq_some_iff.mp hr
    exact ⟨row, ⟨row.handle, h.owner?_eq_some_iff.mp howner, hrow, rfl⟩, rfl⟩
  · rintro ⟨row, ⟨handle, hpair, hrow, rfl⟩, hcomponents⟩
    refine ⟨row, hrow, ?_⟩
    rw [h.owner?_eq_some_iff.mpr hpair, hcomponents]
    rfl

end IsConsistent

end WorldOver

end SceneBatch
