import SceneBatch.World.Component
import SceneBatch.World.Handle

/-!
# The store of a world

Entities with their components, by handles. Entities that carry the same kinds of component stand
together in a `Group`, and the groups stand in the order in which their kinds first occurred; that
is the order in which entities are visited. An operation on a handle whose entity is gone gives
`none` and changes nothing.
-/

namespace SceneBatch

/-- One entity with its components. -/
structure Row where
  handle : Handle
  components : Components

/-- The entities that carry exactly the given kinds of component, in visit order. -/
structure Group where
  kinds : Components.Kinds
  rows : List Row

namespace Group

/-- Take the row at `index` out of a list; the last row moves into its place. -/
def swapRemove (rows : List Row) (index : Nat) : List Row :=
  match rows.getLast? with
  | none => []
  | some last => if index + 1 = rows.length then rows.dropLast else (rows.set index last).dropLast

/-- Append a row to the group of its kinds, which is opened at the end if it never occurred. -/
def addRow (row : Row) : List Group → List Group
  | [] => [⟨row.components.kinds, [row]⟩]
  | g :: rest =>
    if g.kinds = row.components.kinds then { g with rows := g.rows ++ [row] } :: rest
    else g :: addRow row rest

/-- Take the row of an entity out, if it is there. -/
def dropRow (handle : Handle) (g : Group) : Group :=
  match g.rows.findIdx? (·.handle == handle) with
  | some index => { g with rows := swapRemove g.rows index }
  | none => g

/-- Change the rows where they stand. -/
def mapRows (f : Row → Row) (g : Group) : Group := { g with rows := g.rows.map f }

end Group

/-- Entities with their components, and the handles still to hand out. -/
structure Store (σ : Type) where
  supply : σ
  groups : List Group

namespace Store

variable {σ : Type}

/-- A store without entities. Its one group is that of entities without components. -/
def empty [HandleSupply σ] : Store σ := ⟨HandleSupply.fresh, [⟨{}, []⟩]⟩

variable (s : Store σ)

/-- All rows in visit order. -/
def rows : List Row := s.groups.flatMap Group.rows

/-- The row of an entity. -/
def row? (handle : Handle) : Option Row := s.rows.find? (·.handle == handle)

/-- Give an entity other components: in its place if the kinds stay the same, at the end of its
new group otherwise. -/
def setComponents (row : Row) (components : Components) : Store σ :=
  let changed : Row := { row with components }
  -- the order of visits changes only with the kinds
  if components.kinds = row.components.kinds then
    { s with
      groups := s.groups.map (Group.mapRows fun r => if r.handle = row.handle then changed else r) }
  else { s with groups := Group.addRow changed (s.groups.map (Group.dropRow row.handle)) }

/-- Attach a component, or replace the one of its kind. -/
def insert (handle : Handle) (component : Component) : Option (Store σ) := do
  let row ← s.row? handle
  return s.setComponents row (row.components.insert component)

/-- Detach the component of a kind, which must be there. -/
def remove (handle : Handle) (kind : ComponentKind) : Option (Component × Store σ) := do
  let row ← s.row? handle
  let component ← row.components.get? kind
  return (component, s.setComponents row (row.components.erase kind))

/-- Let `dt` seconds pass on every clock. -/
def advance (dt : Float32) : Store σ :=
  { s with
    groups := s.groups.map
      (Group.mapRows fun r => { r with components := r.components.advance dt }) }

variable [HandleSupply σ]

/-- Make an entity without components. -/
def spawn : Handle × Store σ :=
  let (handle, supply) := HandleSupply.allocate s.supply
  (handle, ⟨supply, Group.addRow ⟨handle, {}⟩ s.groups⟩)

/-- Remove an entity with its components. -/
def despawn (handle : Handle) : Option (Store σ) := do
  let row ← s.row? handle
  return ⟨HandleSupply.release s.supply row.handle, s.groups.map (Group.dropRow row.handle)⟩

/-- Remove every entity. The groups stay in their order. -/
def clear : Store σ where
  supply := HandleSupply.reset s.supply
  groups := s.groups.map fun g => { g with rows := [] }

end Store

end SceneBatch
