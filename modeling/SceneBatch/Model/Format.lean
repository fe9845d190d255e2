import SceneBatch.Fault
import SceneBatch.Files.Path

/-!
# Model formats

A model file is a JSON document or a binary container, which its extension tells.
-/

namespace SceneBatch

/-- The two kinds of model file. -/
inductive ModelFormat where
  | text
  | binary
  deriving DecidableEq, Repr

namespace ModelFormat

/-- The name of a format. -/
def name : ModelFormat → String
  | text => "Text"
  | binary => "Binary"

/-- The format that a path's extension names, in letters of any case. -/
def ofPath (p : Path) : Except Fault ModelFormat :=
  match p.extension?.map fun e => String.ofList (e.toList.map Char.toLower) with
  | some "gltf" => .ok .text
  | some "glb" => .ok .binary
  | _ => .error (.unsupportedFormat p.text)

end ModelFormat

end SceneBatch
