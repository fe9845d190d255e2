import SceneBatch.Files.Tree
import SceneBatch.Log
import SceneBatch.Scene.File
import SceneBatch.World.Basic

/-!
# Loading scenes

A scene becomes a world with one entity for each definition. Pinned entities come first, so that
the identifiers handed out to the others never collide with a pinned one.
-/

namespace SceneBatch

namespace EntityDef

/-- The components that an entity gets, in the order they are attached. What is drawn or lights
needs a transform, and gets the identity where the definition has none. -/
def attachments (d : EntityDef) : List Component :=
  let c := d.components
  let placed := c.mesh.isSome || c.light.isSome
  let transform := c.transform.or (if placed then some .identity else none)
  (transform.map Component.transform).toList ++ (c.mesh.map Component.mesh).toList ++
    (c.playback.map Component.playback).toList ++ (c.light.map Component.light).toList

end EntityDef

namespace World

/-- Attach components to an entity, one after the other. -/
def attach (w : World) (id : EntityId) (components : List Component) : Except Fault World :=
  components.foldlM (fun w c => w.insert id c) w

/-- Make the entity of a definition under its name. -/
def addDef (w : World) (name : String) (d : EntityDef) : Except Fault World :=
  match d.pinned with
  | some raw => do
    let w ← w.spawnWithId ⟨raw⟩ name
    w.attach ⟨raw⟩ d.attachments
  | none => do
    let (id, w) ← w.spawn name
    w.attach id d.attachments

/-- The world of a scene: its pinned entities in the order of their names, then the others. -/
def ofScene (s : SceneFile) : Except Fault World :=
  let (pinned, free) := s.entities.partition fun e => e.2.pinned.isSome
  (pinned ++ free).foldlM (fun w (name, d) => w.addDef name d) .empty

end World

namespace Scene

/-- Read a scene from its text and make its world. -/
def ofText (text : String) : Except Fault (Logged (World × SceneFile)) :=
  match SceneFile.ofText? text with
  | none => .error (.toml "not a scene")
  | some s => do
    let w ← World.ofScene s
    return do
      Logged.debug
        s!"loaded scene '{s.name}': {w.count} entities, {s.models.length} models"
      return (w, s)

/-- Read a scene file and make its world. -/
def load (files : FileTree) (path : Path) : Except Fault (Logged (World × SceneFile)) :=
  match files.readText path with
  | .error cause => .error (.file cause)
  | .ok text => ofText text

end Scene

end SceneBatch
