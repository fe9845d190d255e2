import SceneBatch.Log
import SceneBatch.Render.Record
import SceneBatch.World.Query

/-!
# The lights of a frame

A frame has the first lights of the world, up to a limit, and a record that ends them.
`shaderLights` is the other side: what a shader that stops at that record gets to see.
-/

namespace SceneBatch

/-- The light records of a world, at most `limit`, with the ending record behind them. -/
def collectLights (w : World) (limit : Nat) : Logged (List LightRecord) := do
  let found := w.lights
  let kept := (found.take limit).map fun l => LightRecord.ofLight l.transform l.light
  let ignored := found.length - limit
  if 0 < ignored then
    Logged.warn s!"{ignored} light(s) past the limit of {limit} ignored"
  return kept ++ [.ending]

/-- The records that a shader reads from a light buffer: all up to the first ending record. -/
def shaderLights (buffer : List LightRecord) : List LightRecord :=
  buffer.takeWhile fun r => !r.isEnding

end SceneBatch
