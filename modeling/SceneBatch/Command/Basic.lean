import SceneBatch.Command.Help
import SceneBatch.Command.Report
import SceneBatch.Device.Readback
import SceneBatch.Scene.Load

/-!
# Commands

What the program does with a command line and the files it can see. There is no device to render
on, so rendering ends where a device would be asked for.
-/

namespace SceneBatch

/-- Why a command failed: what it was about to do, and what went wrong. -/
structure CommandFault where
  context : String
  cause : Option String := none
  deriving DecidableEq, Repr

namespace CommandFault

/-- The first line of the report of a fault. -/
def headline (f : CommandFault) : String := "Error: " ++ f.context

/-- The report of a fault. -/
def lines (f : CommandFault) : List String :=
  match f.cause with
  | some cause => [f.headline, "", "Caused by:", "    " ++ cause]
  | none => [f.headline]

end CommandFault

/-- How a command ends: the lines it prints, and the fault it ends with. -/
structure Outcome where
  code : Nat
  lines : List String := []
  fault : Option CommandFault := none
  deriving DecidableEq, Repr

namespace Outcome

/-- The text that is printed. -/
def output (o : Outcome) : String := String.join (o.lines.map (· ++ "\n"))

/-- The command was carried out. -/
def done (lines : List String) : Outcome := { code := 0, lines }

/-- The command failed after it had printed some lines. -/
def failed (fault : CommandFault) (lines : List String) : Outcome :=
  { code := 1, lines, fault := some fault }

/-- The command line was not understood. -/
def misused : Outcome := { code := 2 }

end Outcome

/-- A scene with its world, and with the models that could be loaded. -/
structure Stage where
  world : World
  scene : SceneFile
  assets : Assets
  loadedCount : Nat

namespace Stage

/-- Load a scene and its models, which stand next to the scene. -/
def load (files : FileTree) (c : RenderConfig) (path : String) :
    Except CommandFault (Logged Stage) :=
  match Scene.load files ⟨path⟩ with
  | .error fault => .error ⟨"Failed to load scene " ++ path, some fault.message⟩
  | .ok loaded => .ok do
    let (world, scene) ← loaded
    let (loadedCount, assets) ← (Assets.empty c).loadScene files (Path.parent ⟨path⟩) scene
    return { world, scene, assets, loadedCount }

variable (s : Stage)

/-- What is said about a scene that was loaded. -/
def lines : List String :=
  [s!"Loaded scene: {s.scene.name}", s!"Entities: {s.world.count}",
   s!"Models: {s.loadedCount}/{s.scene.models.length} loaded"]

/-- Let time pass on all clocks. -/
def advance (time : Float32) : Stage :=
  if time == 0 then s else { s with world := s.world.advance time }

end Stage

namespace Command

variable (files : FileTree) (c : RenderConfig)

/-- Load a model that a command works on. -/
def loadModel (model : String) (isAnimated : Bool) :
    Logged (Except CommandFault (Model × Assets)) := do
  let (loaded, assets) ← (Assets.empty c).load files ⟨model⟩ isAnimated
  return match loaded >>= assets.models.get with
    | .error fault => .error ⟨"Failed to load model " ++ model, some fault.message⟩
    | .ok m => .ok (m, assets)

/-- Show a model, and its skeleton if that is asked for. -/
def inspectModel (model : String) (isAnimated : Bool) : Logged Outcome := do
  match ← loadModel files c model isAnimated with
  | .error fault => return .failed fault []
  | .ok (m, assets) =>
    let skeleton :=
      if isAnimated then Report.skeletonLines (assets.skeletons.get m.name) else []
    return .done (Report.modelLines m assets.textures.size ++ skeleton)

/-- Show the joint matrices of a model. -/
def poseModel (model : String) (time : Float32) : Logged Outcome := do
  match ← loadModel files c model true with
  | .error fault => return .failed fault []
  | .ok (m, assets) =>
    match assets.skeletons.get m.name with
    | .error fault =>
      return .failed ⟨s!"{m.name} has no skeletal animation: {fault.message}", none⟩ []
    | .ok s => return .done (Report.poseLines m.name s time)

/-- Build a frame of a scene and show it. -/
def batchScene (scene : String) (time : Float32) : Logged Outcome := do
  match Stage.load files c scene with
  | .error fault => return .failed fault []
  | .ok loaded =>
    let s ← loaded
    let (frame, _) ← (Frame.empty c).build (s.advance time).world s.assets
    return .done (s.lines ++ Report.frameLines frame)

/-- Load a scene to render it. -/
def renderScene (scene : String) : Logged Outcome := do
  match Stage.load files c scene with
  | .error fault => return .failed fault []
  | .ok loaded =>
    let s ← loaded
    let fault : CommandFault :=
      ⟨"Failed to create headless render context", some RenderFault.noAdapter.message⟩
    return .failed fault s.lines

/-- Carry out a command. -/
def run : Command → Logged Outcome
  | inspect model isAnimated => inspectModel files c model isAnimated
  | pose model time => poseModel files c model time
  | batch scene time => batchScene files c scene time
  | render scene _ _ _ _ => renderScene files c scene

end Command

namespace Request

/-- Do what a command line asks for. -/
def perform (files : FileTree) : Request → Logged Outcome
  | refused => return .misused
  | version => return .done [Help.versionLine]
  | help none => return .done Help.programPage
  | help (some k) => return .done (Help.commandPage k)
  | helpOfHelp => return .done Help.helpPage
  | run config command =>
    match RenderConfig.loadOrDefault files ⟨config⟩ with
    | .error fault => return .failed ⟨"Failed to load config " ++ config, some fault.message⟩ []
    | .ok c => command.run files c

end Request

end SceneBatch
