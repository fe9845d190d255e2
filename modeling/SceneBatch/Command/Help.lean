import SceneBatch.Command.Line
import SceneBatch.Text.Column

/-!
# Help pages

What the program says about itself and about each of its commands.
-/

namespace SceneBatch

namespace Help

/-- The name of the program. -/
def program : String := "kiln"

/-- What the version option answers. -/
def versionLine : String := program ++ " 0.1.0"

/-- What the program is. -/
def about : String := "Batched glTF renderer with skeletal animation"

/-- What the command that shows help pages does. -/
def helpAbout : String := "Print this message or the help of the given subcommand(s)"

/-- The forms of an option. -/
def optionForms (o : OptionRule) : String :=
  let letter := match o.letter with
    | some c => "-" ++ c.toString ++ ", "
    | none => "    "
  let value := match o.kind with
    | .value _ => " <" ++ String.ofList (o.name.toList.map Char.toUpper) ++ ">"
    | _ => ""
  letter ++ "--" ++ o.name ++ value

/-- What an option does, with its default. -/
def optionAbout (o : OptionRule) : String :=
  match o.default with
  | some value => s!"{o.about} [default: {value}]"
  | none => o.about

/-- Lines of two columns. -/
def table (rows : List (String × String)) : List String :=
  let width := (rows.map fun r => r.1.length).foldl max 0
  rows.map fun (term, text) => s!"  {Column.left width term}  {text}"

/-- The part of a page that lists options. -/
def optionLines (options : List OptionRule) : List String :=
  "Options:" :: table (options.map fun o => (optionForms o, optionAbout o))

/-- The page of the program. -/
def programPage : List String :=
  [about, "", s!"Usage: {program} [OPTIONS] <COMMAND>", "", "Commands:"] ++
    table ((CommandKind.all.map fun k => (k.name, k.about)) ++ [("help", helpAbout)]) ++
    [""] ++ optionLines Request.commonOptions

/-- The page of a command. -/
def commandPage (k : CommandKind) : List String :=
  let (operand, operandAbout) := k.operand
  [k.about, "", s!"Usage: {program} {k.name} [OPTIONS] <{operand}>", "", "Arguments:",
    s!"  <{operand}>  {operandAbout}", ""] ++ optionLines k.options

/-- The page of the command that shows help pages. -/
def helpPage : List String :=
  [helpAbout, "", s!"Usage: {program} help [COMMAND]...", "", "Arguments:",
    "  [COMMAND]...  Print help for the subcommand(s)"]

end Help

end SceneBatch
