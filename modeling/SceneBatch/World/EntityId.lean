/-!
# Entity identifiers

An entity keeps one identifier for its whole life, and no later entity gets it again. An
`IdSource` hands out identifiers from one upward, past every identifier that was pinned.
-/

namespace SceneBatch

/-- The identifier of an entity. -/
structure EntityId where
  raw : Nat
  deriving DecidableEq, Repr

namespace EntityId

/-- The form in messages: `#7`. -/
def text (id : EntityId) : String := s!"#{id.raw}"

/-- The form in dumps: `EntityId(7)`. -/
def debugText (id : EntityId) : String := s!"EntityId({id.raw})"

end EntityId

/-- The identifier that is handed out next. -/
structure IdSource where
  next : Nat
  deriving DecidableEq, Repr

namespace IdSource

/-- A source that has handed out nothing. -/
def fresh : IdSource := ⟨1⟩

/-- Hand out an identifier. -/
def allocate (s : IdSource) : EntityId × IdSource := (⟨s.next⟩, ⟨s.next + 1⟩)

/-- Hand out only identifiers greater than `id` from now on. -/
def reserveThrough (s : IdSource) (id : EntityId) : IdSource := ⟨max s.next (id.raw + 1)⟩

end IdSource

end SceneBatch
