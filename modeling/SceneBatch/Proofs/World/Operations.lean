import SceneBatch.Proofs.ListLemmas
import SceneBatch.World.Basic

/-!
# Operations on a world

What each operation answers and makes of a world, written out, and from that what any of them can
do at all: it fails and leaves the world as it was, or it has one of the effects of
`WorldStep.Effect` (`WorldStep.perform_cases`). The effects say nothing of what the world must be
like; the properties of all worlds are derived from them.
-/

namespace SceneBatch

/-! ### Outcomes -/

namespace WorldM

variable {σ α β : Type} (w : WorldOver σ)

theorem outcome_bind (m : WorldM σ α) (f : α → WorldM σ β) :
    (m >>= f).outcome w =
      match m.outcome w with
      | (.ok a, w') => (f a).outcome w'
      | (.error fault, w') => (.error fault, w') := by
  show (ExceptT.bindCont f (m.outcome w).1 : StateM (WorldOver σ) (Except Fault β)).run
    (m.outcome w).2 = _
  rcases m.outcome w with ⟨fault | a, w'⟩
  · rfl
  · rfl

theorem outcome_get_bind (f : WorldOver σ → WorldM σ α) :
    (get >>= f).outcome w = (f w).outcome w := rfl

/-- What follows a look-up of a handle comes to nothing if there is none. -/
theorem outcome_find_bind (id : EntityId) (f : Handle → WorldM σ α) :
    (find id >>= f).outcome w =
      match w.handle? id with
      | some handle => (f handle).outcome w
      | none => (.error (.entityNotFound id.text), w) := by
  rw [outcome_bind, find, outcome_get_bind]
  cases w.handle? id with
  | none => rfl
  | some handle => rfl

theorem outcome_insert (id : EntityId) (component : Component) :
    (insert id component).outcome w =
      match (w.handle? id).bind (w.store.insert · component) with
      | some store => (.ok (), { w with store })
      | none => (.error (.entityNotFound id.text), w) := by
  rw [insert, outcome_find_bind]
  cases w.handle? id with
  | none => rfl
  | some handle =>
      dsimp only
      rw [outcome_get_bind, Option.bind_some]
      -- The store refuses a stale handle, with the same answer as for no handle.
      cases w.store.insert handle component with
      | none => rfl
      | some store => rfl

theorem outcome_remove (id : EntityId) (kind : ComponentKind) :
    (remove id kind).outcome w =
      match (w.handle? id).bind (w.store.remove · kind) with
      | some (component, store) => (.ok component, { w with store })
      | none => (.error (.entityNotFound id.text), w) := by
  rw [remove, outcome_find_bind]
  cases w.handle? id with
  | none => rfl
  | some handle =>
      dsimp only
      rw [outcome_get_bind, Option.bind_some]
      cases w.store.remove handle kind with
      | none => rfl
      | some removed => rfl

variable [HandleSupply σ]

theorem outcome_spawn (name : String) :
    (spawn name).outcome w =
      if (w.id? name).isSome then (.error (.duplicateEntityName name), w)
      else (.ok ⟨w.ids.next⟩, { w with ids := ⟨w.ids.next + 1⟩ }.register ⟨w.ids.next⟩ name) := by
  rw [spawn, outcome_get_bind]
  split
  · rfl
  · rfl

theorem outcome_spawnWithId (id : EntityId) (name : String) :
    (spawnWithId id name).outcome w =
      if (w.id? name).isSome then (.error (.duplicateEntityName name), w)
      else if w.contains id then (.error (.scene s!"entity id {id.text} already in use"), w)
      else (.ok (), { w with ids := w.ids.reserveThrough id }.register id name) := by
  rw [spawnWithId, outcome_get_bind]
  split
  · rfl
  · rw [outcome_get_bind]
    split
    · rfl
    · rfl

theorem outcome_despawn (id : EntityId) :
    (despawn id).outcome w =
      match (w.handle? id).bind w.store.despawn with
      | some store => (.ok (), { w with store }.forget id)
      | none => (.error (.entityNotFound id.text), w) := by
  rw [despawn, outcome_find_bind]
  cases w.handle? id with
  | none => rfl
  | some handle =>
      dsimp only
      rw [outcome_get_bind, Option.bind_some]
      cases w.store.despawn handle with
      | none => rfl
      | some store => rfl

end WorldM

/-! ### Steps -/

/-- One of the operations that change a world. -/
inductive WorldStep where
  | spawn (name : String)
  | spawnWithId (id : EntityId) (name : String)
  | despawn (id : EntityId)
  | insert (id : EntityId) (component : Component)
  | remove (id : EntityId) (kind : ComponentKind)
  | advance (dt : Float32)
  | clear

/-- What an operation answers: the entity that entered the world, the component that was detached,
or just that it is done. -/
inductive WorldAnswer where
  | entered (id : EntityId)
  | detached (component : Component)
  | done

namespace WorldStep

variable {σ : Type} [HandleSupply σ]

/-- Perform an operation. -/
def perform : WorldStep → WorldM σ WorldAnswer
  | .spawn name => do return .entered (← WorldM.spawn name)
  | .spawnWithId id name => do
    WorldM.spawnWithId id name
    return .entered id
  | .despawn id => do
    WorldM.despawn id
    return .done
  | .insert id component => do
    WorldM.insert id component
    return .done
  | .remove id kind => do return .detached (← WorldM.remove id kind)
  | .advance dt => do
    modify (·.advance dt)
    return .done
  | .clear => do
    modify (·.clear)
    return .done

/-- What an operation that does not fail answers, and the world after it. -/
inductive Effect (w : WorldOver σ) : WorldStep → WorldAnswer → WorldOver σ → Prop
  | spawned {name : String} (hname : w.id? name = none) :
      Effect w (.spawn name) (.entered ⟨w.ids.next⟩)
        ({ w with ids := ⟨w.ids.next + 1⟩ }.register ⟨w.ids.next⟩ name)
  | pinned {id : EntityId} {name : String} (hname : w.id? name = none)
      (hid : w.contains id = false) :
      Effect w (.spawnWithId id name) (.entered id)
        ({ w with ids := w.ids.reserveThrough id }.register id name)
  | despawned {id : EntityId} {handle : Handle} {store : Store σ}
      (hhandle : w.handle? id = some handle) (hstore : w.store.despawn handle = some store) :
      Effect w (.despawn id) .done ({ w with store }.forget id)
  | inserted {id : EntityId} {component : Component} {handle : Handle} {row : Row}
      (hhandle : w.handle? id = some handle) (hrow : w.store.row? handle = some row) :
      Effect w (.insert id component) .done
        { w with store := w.store.setComponents row (row.components.insert component) }
  | removed {id : EntityId} {kind : ComponentKind} {component : Component} {handle : Handle}
      {row : Row} (hhandle : w.handle? id = some handle) (hrow : w.store.row? handle = some row)
      (hcomponent : row.components.get? kind = some component) :
      Effect w (.remove id kind) (.detached component)
        { w with store := w.store.setComponents row (row.components.erase kind) }
  | advanced (dt : Float32) : Effect w (.advance dt) .done (w.advance dt)
  | cleared : Effect w .clear .done w.clear

/-- An operation has an effect, or it fails and leaves the world as it was. -/
theorem perform_cases (s : WorldStep) (w : WorldOver σ) :
    (∃ answer w', s.perform.outcome w = (.ok answer, w') ∧ Effect w s answer w') ∨
      ∃ fault, s.perform.outcome w = (.error fault, w) := by
  cases s with
  | spawn name =>
      -- each operation makes all its checks before it writes
      rw [perform, WorldM.outcome_bind, WorldM.outcome_spawn]
      by_cases hname : (w.id? name).isSome = true
      · rw [if_pos hname]
        exact .inr ⟨_, rfl⟩
      · rw [if_neg hname]
        exact .inl ⟨_, _, rfl, .spawned (by simpa using hname)⟩
  | spawnWithId id name =>
      rw [perform, WorldM.outcome_bind, WorldM.outcome_spawnWithId]
      -- the name is checked before the identifier
      by_cases hname : (w.id? name).isSome = true
      · rw [if_pos hname]
        exact .inr ⟨_, rfl⟩
      · by_cases hid : w.contains id = true
        · rw [if_neg hname, if_pos hid]
          exact .inr ⟨_, rfl⟩
        · rw [if_neg hname, if_neg hid]
          exact .inl ⟨_, _, rfl, .pinned (by simpa using hname) (by simpa using hid)⟩
  | despawn id =>
      rw [perform, WorldM.outcome_bind, WorldM.outcome_despawn]
      cases hstore : (w.handle? id).bind w.store.despawn with
      | none => exact .inr ⟨_, rfl⟩
      | some store =>
          obtain ⟨handle, hhandle, hstore⟩ := Option.bind_eq_some_iff.mp hstore
          exact .inl ⟨_, _, rfl, .despawned hhandle hstore⟩
  | insert id component =>
      rw [perform, WorldM.outcome_bind, WorldM.outcome_insert]
      cases hstore : (w.handle? id).bind (w.store.insert · component) with
      | none => exact .inr ⟨_, rfl⟩
      | some store =>
          obtain ⟨handle, hhandle, hstore⟩ := Option.bind_eq_some_iff.mp hstore
          obtain ⟨row, hrow, hset⟩ := Option.bind_eq_some_iff.mp hstore
          cases hset
          exact .inl ⟨_, _, rfl, .inserted hhandle hrow⟩
  | remove id kind =>
      rw [perform, WorldM.outcome_bind, WorldM.outcome_remove]
      cases hstore : (w.handle? id).bind (w.store.remove · kind) with
      | none => exact .inr ⟨_, rfl⟩
      | some removed =>
          obtain ⟨handle, hhandle, hstore⟩ := Option.bind_eq_some_iff.mp hstore
          obtain ⟨row, hrow, hstore⟩ := Option.bind_eq_some_iff.mp hstore
          obtain ⟨component, hcomponent, hset⟩ := Option.bind_eq_some_iff.mp hstore
          cases hset
          exact .inl ⟨_, _, rfl, .removed hhandle hrow hcomponent⟩
  | advance dt => exact .inl ⟨_, _, rfl, .advanced dt⟩
  | clear => exact .inl ⟨_, _, rfl, .cleared⟩

variable {s : WorldStep} {w w' : WorldOver σ}

theorem effect_of_outcome {answer : WorldAnswer} (h : s.perform.outcome w = (.ok answer, w')) :
    Effect w s answer w' := by
  rcases s.perform_cases w with ⟨_, _, h', e⟩ | ⟨_, h'⟩
  · cases h'.symm.trans h
    exact e
  · cases h'.symm.trans h

theorem eq_of_outcome_error {fault : Fault} (h : s.perform.outcome w = (.error fault, w')) :
    w' = w := by
  rcases s.perform_cases w with ⟨_, _, h', -⟩ | ⟨_, h'⟩
  · cases h'.symm.trans h
  · cases h'.symm.trans h
    rfl

end WorldStep

end SceneBatch
