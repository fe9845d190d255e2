import SceneBatch.Geometry.Transform

/-!
# Components

What an entity can carry: a transform, a reference to a model, a playback clock, and a light. An
entity has at most one component of each kind.
-/

namespace SceneBatch

/-- A reference to a loaded model by its name. -/
structure MeshRef where
  model : String
  deriving DecidableEq

/-- A playback clock. -/
structure Playback where
  enabled : Bool := true
  speed : Float32 := 1
  time : Float32 := 0
  deriving DecidableEq

namespace Playback

/-- Let `dt` seconds pass. A clock that is not enabled stands still; wrapping to the length of a
clip is the sampler's affair. -/
def advance (p : Playback) (dt : Float32) : Playback :=
  if p.enabled then { p with time := p.time + dt * p.speed } else p

end Playback

/-- The kinds of light. -/
inductive LightKind where
  | directional
  deriving DecidableEq

namespace LightKind

/-- The name of a kind of light in a scene file. -/
def name : LightKind → String
  | directional => "directional"

end LightKind

/-- A light. -/
structure Light where
  kind : LightKind := .directional
  color : Vec3 Float32 := .one
  ambient : Float32 := 0.1
  diffuse : Float32 := 0.8
  specular : Float32 := 0.5
  deriving DecidableEq

/-- One component. -/
inductive Component where
  | transform (value : Transform)
  | mesh (value : MeshRef)
  | playback (value : Playback)
  | light (value : Light)

/-- The kinds of component. -/
inductive ComponentKind where
  | transform
  | mesh
  | playback
  | light
  deriving DecidableEq

/-- The components of one entity. -/
structure Components where
  transform : Option Transform := none
  mesh : Option MeshRef := none
  playback : Option Playback := none
  light : Option Light := none

namespace Components

/-- The kinds of component that are present. -/
structure Kinds where
  transform : Bool := false
  mesh : Bool := false
  playback : Bool := false
  light : Bool := false
  deriving DecidableEq

/-- The kinds of component that are present. -/
def kinds (c : Components) : Kinds :=
  ⟨c.transform.isSome, c.mesh.isSome, c.playback.isSome, c.light.isSome⟩

/-- Add a component, or replace the one of its kind. -/
def insert (c : Components) : Component → Components
  | .transform t => { c with transform := some t }
  | .mesh m => { c with mesh := some m }
  | .playback p => { c with playback := some p }
  | .light l => { c with light := some l }

/-- The component of a kind. -/
def get? (c : Components) : ComponentKind → Option Component
  | .transform => c.transform.map .transform
  | .mesh => c.mesh.map .mesh
  | .playback => c.playback.map .playback
  | .light => c.light.map .light

/-- Take the component of a kind away. -/
def erase (c : Components) : ComponentKind → Components
  | .transform => { c with transform := none }
  | .mesh => { c with mesh := none }
  | .playback => { c with playback := none }
  | .light => { c with light := none }

/-- Let `dt` seconds pass on the clock, if there is one. -/
def advance (c : Components) (dt : Float32) : Components :=
  { c with playback := c.playback.map (·.advance dt) }

end Components

end SceneBatch
