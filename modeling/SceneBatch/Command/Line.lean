import SceneBatch.Command.Option

/-!
# Command lines

The commands of the program, and the request that a command line makes: to run a command, to show
a help page, or to tell the version. Anything else is refused.
-/

namespace SceneBatch

/-- The kinds of command. -/
inductive CommandKind where
  | inspect
  | pose
  | batch
  | render
  deriving DecidableEq, Repr

/-- A command with what it works on. -/
inductive Command where
  | inspect (model : String) (isAnimated : Bool)
  | pose (model : String) (time : Float32)
  | batch (scene : String) (time : Float32)
  | render (scene : String) (output : Option String) (width height : UInt32) (time : Float32)

/-- What a command line asks for. -/
inductive Request where
  | run (config : String) (command : Command)
  | help (kind : Option CommandKind)
  | helpOfHelp
  | version
  | refused

/-! ### Options -/

namespace OptionRule

/-- The file with the configuration. -/
def config : OptionRule where
  name := "config"
  kind := .value fun _ => true
  about := "Renderer configuration file (defaults apply if missing)"
  default := some "kiln.toml"

/-- A time in seconds. -/
def time (about : String) : OptionRule where
  name := "time"
  kind := .value fun text => (Single.ofText? text).isSome
  about := about
  default := some "0"

/-- A length in pixels. -/
def pixels (name about default : String) : OptionRule where
  name := name
  kind := .value fun text => (natural32? text).isSome
  about := about
  default := some default

/-- Show a help page. -/
def help : OptionRule :=
  { name := "help", letter := some 'h', kind := .help, about := "Print help" }

/-- Tell the version. -/
def version : OptionRule :=
  { name := "version", letter := some 'V', kind := .version, about := "Print version" }

end OptionRule

namespace CommandKind

/-- All commands, in the order they are listed. -/
def all : List CommandKind := [inspect, pose, batch, render]

/-- The name of a command. -/
def name : CommandKind → String
  | inspect => "inspect"
  | pose => "pose"
  | batch => "batch"
  | render => "render"

/-- What a command does. -/
def about : CommandKind → String
  | inspect => "Show nodes, meshes, skins and animations of a model"
  | pose => "Print joint matrices of a skinned model at a time"
  | batch => "Build one frame on the CPU and print the batch"
  | render => "Render one frame headless through the GPU pipeline"

/-- The name of a command's operand, and what it is. -/
def operand : CommandKind → String × String
  | inspect | pose => ("MODEL", "Path to a .gltf or .glb file")
  | batch | render => ("SCENE", "Path to scene file")

/-- The options of a command, in the order of its help page. -/
def options : CommandKind → List OptionRule
  | inspect =>
    [{ name := "animated", kind := .switch, about := "Extract the skeletal animation as well" },
     .config, .help]
  | pose => [.config, .time "Clip time in seconds (wrapped to the clip length)", .help]
  | batch => [.config, .time "Advance animation clocks by this many seconds first", .help]
  | render =>
    [.config,
     { name := "output", letter := some 'o', kind := .value fun _ => true
       about := "Write the frame to this PNG" },
     .pixels "width" "Image width in pixels" "1280",
     .pixels "height" "Image height in pixels" "720",
     .time "Advance animation clocks by this many seconds first", .help]

/-- The command of a name. -/
def ofName? (name : String) : Option CommandKind := all.find? fun k => k.name = name

/-- The command that options and an operand make. -/
def command (k : CommandKind) (r : Reading) (operand : String) : Command :=
  let time := ((r.value? k.options "time").bind Single.ofText?).getD 0
  let pixels (name : String) : UInt32 := ((r.value? k.options name).bind natural32?).getD 0
  match k with
  | inspect => .inspect operand (r.has "animated")
  | pose => .pose operand time
  | batch => .batch operand time
  | render =>
    .render operand (r.value? k.options "output") (pixels "width") (pixels "height") time

end CommandKind

/-! ### Requests -/

namespace Request

/-- The options in front of a command. -/
def commonOptions : List OptionRule := [.config, .help, .version]

/-- The request that a halted reading makes. -/
def ofHalt (kind : Option CommandKind) : Halt → Request
  | .help => help kind
  | .version => version
  | .refused => refused

/-- The request that is made by the tokens behind the name of a command. A configuration file
named here counts instead of one in front of the command. -/
def ofCommand (front : Reading) (k : CommandKind) (tokens : List String) : Request :=
  match tokens.foldlM (Reading.next k.options) {} with
  | .error halt => ofHalt (some k) halt
  | .ok r =>
    match r.operand, r.pending with
    | some operand, none =>
      let config := (r.given.lookup "config").or (front.value? commonOptions "config")
      run (config.getD "") (k.command r operand)
    | _, _ => refused

/-- The request for a help page by name. -/
def ofHelpNames : List String → Request
  | [] => help none
  | [name] =>
    if name = "help" then helpOfHelp
    else
      match CommandKind.ofName? name with
      | some k => help (some k)
      | none => refused
  | _ => refused

/-- Read a command line behind the options in front of the command. -/
def ofTokens (front : Reading) : List String → Request
  | [] => refused
  | token :: rest =>
    match Token.ofText token, front.pending with
    | .word name, none =>
      if front.wordsOnly then refused
      else if name = "help" then ofHelpNames rest
      else
        match CommandKind.ofName? name with
        | some k => ofCommand front k rest
        | none => refused
    | _, _ =>
      match front.next commonOptions token with
      | .error halt => ofHalt none halt
      | .ok front => ofTokens front rest

/-- Read a command line. -/
def ofArguments (arguments : List String) : Request := ofTokens {} arguments

end Request

end SceneBatch
