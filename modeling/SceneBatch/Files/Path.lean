/-!
# Paths

Paths are texts with slashes between components. Empty components and dots inside a path do not
count, a slash in front makes a path absolute.
-/

namespace SceneBatch

/-- The name of a place in a file system. -/
structure Path where
  text : String
  deriving DecidableEq, Repr

namespace Path

/-- Put `name` behind a directory. An absolute name stands for itself, and an empty directory adds
nothing. -/
def join (base : Path) (name : String) : Path :=
  if name.startsWith "/" then ⟨name⟩
  else if base.text.isEmpty ∨ base.text.endsWith "/" then ⟨base.text ++ name⟩
  else ⟨base.text ++ "/" ++ name⟩

/-- Drop slashes, and dots behind slashes, from the end of a path given from its end; the root
stays. -/
def trimEnd : List Char → List Char
  | '/' :: rest => if rest.isEmpty then ['/'] else trimEnd rest
  | '.' :: '/' :: rest => if rest.isEmpty then ['/'] else trimEnd rest
  | cs => cs

/-- The last component and what stands in front of it, both from the end. -/
def splitLast (p : Path) : List Char × List Char :=
  (trimEnd p.text.toList.reverse).span (· ≠ '/')

/-- The last component, if it is the name of something. -/
def fileName? (p : Path) : Option String :=
  let name := String.ofList p.splitLast.1.reverse
  if name = "" ∨ name = "." ∨ name = ".." then none else some name

/-- What stands behind the last dot of the file name, unless the name starts with that dot. -/
def extension? (p : Path) : Option String := do
  let name ← p.fileName?
  match name.toList.reverse.span (· ≠ '.') with
  | (extension, _ :: _ :: _) => some (String.ofList extension.reverse)
  | _ => none

/-- The path without its last component; empty where there is none left. -/
def parent (p : Path) : Path :=
  match p.splitLast with
  | ([], _) => ⟨""⟩
  | (_, front) => ⟨String.ofList (trimEnd front).reverse⟩

/-- The components that count. -/
def components (p : Path) : List String :=
  (p.text.splitOn "/").filter fun c => c ≠ "" ∧ c ≠ "."

/-- Whether a path starts at the root. -/
def isAbsolute (p : Path) : Bool := p.text.startsWith "/"

/-- Whether a path ends in a way that only a directory can. -/
def namesDirectory (p : Path) : Bool := p.text.endsWith "/" || p.text.endsWith "/."

end Path

end SceneBatch
