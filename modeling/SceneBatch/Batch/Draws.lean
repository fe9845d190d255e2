import SceneBatch.Batch.Basic

/-!
# Draws

A batch in the form that the device executes: one command for each entry with instances, and the
instances of all entries in one list. A command's instances start where those of the commands
before it end.
-/

namespace SceneBatch

/-- Draw commands with the instances and texture bindings they refer to. -/
structure Draws where
  commands : List DrawCommand := []
  instances : List InstanceRecord := []
  materials : List MaterialBinding := []
  deriving DecidableEq

namespace Draws

/-- Whether nothing is drawn. -/
def isEmpty (d : Draws) : Bool := d.commands.isEmpty

/-- The number of triangles of all instances. -/
def triangleCount (d : Draws) : Nat :=
  (d.commands.map fun c => c.indexCount / 3 * c.instanceCount).foldr (· + ·) 0

/-- Add the command of an entry, if it has instances. An entry whose records are missing has
identity records. -/
def addEntry (d : Draws) (e : MeshEntry) (records : List InstanceRecord) : Draws :=
  let records := if records = [] then List.replicate e.instanceCount .identity else records
  if records = [] then d
  else
    { d with
      instances := d.instances ++ records
      commands := d.commands ++
        [⟨e.indexCount, records.length, e.firstIndex, e.baseVertex, d.instances.length⟩] }

/-- The draws of a batch. -/
def ofBatch (b : Batch) : Draws :=
  b.entries.zipIdx.foldl (fun d (e, place) => d.addEntry e (b.registry.instances place))
    { materials := b.registry.bindings }

end Draws

end SceneBatch
