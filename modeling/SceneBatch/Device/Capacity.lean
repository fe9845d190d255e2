import SceneBatch.Batch.Draws
import SceneBatch.Render.Config

/-!
# Capacities

The buffers of a device are made once, as large as the configuration says, and never grow. A frame
that does not fit is refused before anything of it is written.
-/

namespace SceneBatch

/-- How many elements each buffer takes, and how many commands were last uploaded. The lights
include the record that ends them. -/
structure Capacity where
  limits : BufferLimits
  materials : UInt32
  lights : UInt32
  drawCount : Nat := 0

namespace Capacity

/-- The capacities that a configuration gives. -/
def ofConfig (c : RenderConfig) : Capacity where
  limits := c.limits
  materials := max c.maxTextureUnits 1
  lights := c.limits.lights + 1

/-- Refuse more elements than a buffer takes. -/
def ensure (buffer : String) (needed : Nat) (capacity : UInt32) : Except Fault Unit :=
  if capacity.toNat < needed then .error (.capacityExceeded buffer needed capacity.toNat)
  else .ok ()

variable (c : Capacity)

/-- Whether staging arrays fit. -/
def checkGeometry (s : Staging) : Except Fault Unit := do
  ensure "vertex" s.vertexCount c.limits.vertices
  ensure "index" s.indices.length c.limits.indices

/-- Whether draws fit. -/
def checkDraws (d : Draws) : Except Fault Unit := do
  ensure "indirect" d.commands.length c.limits.draws
  ensure "instance" d.instances.length c.limits.instances
  ensure "material" d.materials.length c.materials

/-- Whether joint matrices fit. -/
def checkPalette (palette : List (Mat4 Float32)) : Except Fault Unit :=
  ensure "palette" palette.length c.limits.paletteMatrices

/-- Whether lights fit. -/
def checkLights (lights : List LightRecord) : Except Fault Unit :=
  ensure "light" lights.length c.lights

/-- Take it that nothing was uploaded. -/
def disableDraws : Capacity := { c with drawCount := 0 }

end Capacity

end SceneBatch
