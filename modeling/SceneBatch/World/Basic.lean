import SceneBatch.Fault
import SceneBatch.World.EntityId
import SceneBatch.World.Store

/-!
# The world

A store of entities in which each entity has an identifier and a name. Identifiers are tied to the
handles of the store by one map, and names to identifiers by another. An operation (`WorldM`)
changes them one after the other, and it may fail; `WorldM.outcome` says what becomes of a world by
it.
-/

namespace SceneBatch

/-- A store, the handle of each identifier, the identifier of each name, and the identifiers still
to hand out. -/
structure WorldOver (σ : Type) where
  store : Store σ
  handles : List (EntityId × Handle)
  names : List (String × EntityId)
  ids : IdSource

namespace WorldOver

variable {σ : Type}

/-- A world without entities. -/
def empty [HandleSupply σ] : WorldOver σ := ⟨.empty, [], [], .fresh⟩

variable (w : WorldOver σ)

/-! ### Look-up -/

/-- The handle of an entity. -/
def handle? (id : EntityId) : Option Handle := w.handles.lookup id

/-- The entity of a handle. -/
def owner? (handle : Handle) : Option EntityId :=
  (w.handles.find? (·.2 == handle)).map Prod.fst

/-- Whether an entity is alive. -/
def contains (id : EntityId) : Bool := (w.handle? id).isSome

/-- The entity of a name. -/
def id? (name : String) : Option EntityId := w.names.lookup name

/-- The name of an entity. -/
def name? (id : EntityId) : Option String := (w.names.find? (·.2 == id)).map Prod.fst

/-- The number of entities. -/
def count : Nat := w.names.length

/-- The components of an entity; none for an entity that is not alive. -/
def components (id : EntityId) : Components :=
  (((w.handle? id).bind w.store.row?).map Row.components).getD {}

/-! ### Entering and leaving -/

/-- Tie an identifier to a handle. Neither of them stays tied to anything else. -/
def tie (id : EntityId) (handle : Handle) (handles : List (EntityId × Handle)) :
    List (EntityId × Handle) :=
  (id, handle) :: handles.filter fun x => x.1 ≠ id ∧ x.2 ≠ handle

/-- Enter a new entity without components. -/
def register [HandleSupply σ] (id : EntityId) (name : String) : WorldOver σ :=
  -- it may be a handle that another entity had before
  let (handle, store) := w.store.spawn
  { w with
    store
    handles := tie id handle w.handles
    names := (name, id) :: w.names.filter (·.1 ≠ name) }

/-- Forget the identifier and the name of an entity. -/
def forget (id : EntityId) : WorldOver σ :=
  { w with
    handles := w.handles.filter (·.1 ≠ id)
    names := w.names.filter (·.2 ≠ id) }

/-- Remove every entity. No identifier is handed out again. -/
def clear [HandleSupply σ] : WorldOver σ :=
  { w with store := w.store.clear, handles := [], names := [] }

/-- Let `dt` seconds pass on every clock. -/
def advance (dt : Float32) : WorldOver σ := { w with store := w.store.advance dt }

end WorldOver

/-- An operation on a world. One that fails leaves the world as it is at that point. -/
abbrev WorldM (σ : Type) := ExceptT Fault (StateM (WorldOver σ))

namespace WorldM

variable {σ : Type}

/-- What an operation answers, and what it makes of a world. -/
def outcome {α : Type} (m : WorldM σ α) (w : WorldOver σ) : Except Fault α × WorldOver σ :=
  m.run.run w

/-- The handle of an entity, or the fault that there is none. -/
def find (id : EntityId) : WorldM σ Handle := do
  match (← get).handle? id with
  | some handle => return handle
  | none => throw (.entityNotFound id.text)

/-- Put a store in the place of the world's, or fail if there is none. -/
def keep (id : EntityId) : Option (Store σ) → WorldM σ Unit
  | some store => modify fun w => { w with store }
  | none => throw (.entityNotFound id.text)

/-- Attach a component, or replace the one of its kind. -/
def insert (id : EntityId) (component : Component) : WorldM σ Unit := do
  let handle ← find id
  keep id ((← get).store.insert handle component)

/-- Detach the component of a kind. -/
def remove (id : EntityId) (kind : ComponentKind) : WorldM σ Component := do
  let handle ← find id
  match (← get).store.remove handle kind with
  | some (component, store) =>
    keep id (some store)
    return component
  | none => throw (.entityNotFound id.text)

variable [HandleSupply σ]

/-- Make an entity under a name that no living entity has. -/
def spawn (name : String) : WorldM σ EntityId := do
  if ((← get).id? name).isSome then throw (.duplicateEntityName name)
  let id ← modifyGet fun w =>
    let (id, ids) := w.ids.allocate
    (id, { w with ids })
  modify (·.register id name)
  return id

/-- Make an entity with a given identifier. -/
def spawnWithId (id : EntityId) (name : String) : WorldM σ Unit := do
  if ((← get).id? name).isSome then throw (.duplicateEntityName name)
  if (← get).contains id then throw (.scene s!"entity id {id.text} already in use")
  -- identifiers that are chosen later are above this one
  modify fun w => { w with ids := w.ids.reserveThrough id }
  modify (·.register id name)

/-- Remove an entity with its name and components. -/
def despawn (id : EntityId) : WorldM σ Unit := do
  let handle ← find id
  keep id ((← get).store.despawn handle)
  modify (·.forget id)

end WorldM

/-- A world that takes its handles from slots. -/
abbrev World := WorldOver Slots

namespace World

/-- A world without entities. -/
def empty : World := WorldOver.empty

/-- What an operation answers, and the world after it. -/
def after {α : Type} (w : World) (m : WorldM Slots α) : Except Fault (α × World) :=
  match m.outcome w with
  | (.ok answer, w) => .ok (answer, w)
  | (.error fault, _) => .error fault

variable (w : World)

/-- Make an entity under a name that no living entity has. -/
def spawn (name : String) : Except Fault (EntityId × World) := w.after (WorldM.spawn name)

/-- Make an entity with a given identifier. -/
def spawnWithId (id : EntityId) (name : String) : Except Fault World :=
  (w.after (WorldM.spawnWithId id name)).map Prod.snd

/-- Remove an entity with its name and components. -/
def despawn (id : EntityId) : Except Fault World := (w.after (WorldM.despawn id)).map Prod.snd

/-- Attach a component, or replace the one of its kind. -/
def insert (id : EntityId) (component : Component) : Except Fault World :=
  (w.after (WorldM.insert id component)).map Prod.snd

/-- Detach the component of a kind. -/
def remove (id : EntityId) (kind : ComponentKind) : Except Fault (Component × World) :=
  w.after (WorldM.remove id kind)

end World

end SceneBatch
