import SceneBatch.World.Basic

/-!
# Queries

A frame is built from three walks over the world: models that stand still, models that are
animated, and lights. An entity needs a transform to be visited by any of them.
-/

namespace SceneBatch

/-- A visited entity with a model that is not animated. -/
structure StaticMesh where
  id : EntityId
  transform : Transform
  mesh : MeshRef

/-- A visited entity with an animated model. -/
structure AnimatedMesh where
  id : EntityId
  transform : Transform
  mesh : MeshRef
  playback : Playback

/-- A visited light. -/
structure PlacedLight where
  id : EntityId
  transform : Transform
  light : Light

/-- An entity of a world with its components. -/
structure Resident where
  id : EntityId
  components : Components

namespace Resident

/-- An entity with a transform and a model but no clock. -/
def staticMesh? (r : Resident) : Option StaticMesh :=
  match r.components with
  | ⟨some t, some m, none, _⟩ => some ⟨r.id, t, m⟩
  | _ => none

/-- An entity with a transform, a model and a clock. -/
def animatedMesh? (r : Resident) : Option AnimatedMesh :=
  match r.components with
  | ⟨some t, some m, some p, _⟩ => some ⟨r.id, t, m, p⟩
  | _ => none

/-- An entity with a transform and a light. -/
def placedLight? (r : Resident) : Option PlacedLight :=
  match r.components with
  | ⟨some t, _, _, some l⟩ => some ⟨r.id, t, l⟩
  | _ => none

end Resident

namespace WorldOver

variable {σ : Type} (w : WorldOver σ)

/-- The entities in visit order. A row whose handle is no entity's is passed over. -/
def residents : List Resident :=
  w.store.rows.filterMap fun r => (w.owner? r.handle).map (⟨·, r.components⟩)

/-- The models that stand still, in visit order. -/
def staticMeshes : List StaticMesh := w.residents.filterMap Resident.staticMesh?

/-- The animated models, in visit order. -/
def animatedMeshes : List AnimatedMesh := w.residents.filterMap Resident.animatedMesh?

/-- The lights, in visit order. -/
def lights : List PlacedLight := w.residents.filterMap Resident.placedLight?

end WorldOver

end SceneBatch
