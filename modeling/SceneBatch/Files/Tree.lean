import SceneBatch.Fault
import SceneBatch.Files.Bytes
import SceneBatch.Files.Path

/-!
# File trees

The files that a program can see, as a value: relative names with contents. A directory exists
when a file lies below it.
-/

namespace SceneBatch

/-- Files by the components of their names. -/
structure FileTree where
  files : List (List String × Bytes)

namespace FileTree

/-- A tree without files. -/
def empty : FileTree := ⟨[]⟩

/-- Write a file; a file of the same name is replaced. -/
def write (t : FileTree) (p : Path) (contents : Bytes) : FileTree :=
  ⟨(p.components, contents) :: t.files.filter (·.1 ≠ p.components)⟩

/-- What a name leads to. -/
inductive Node where
  | file (contents : Bytes)
  | directory

/-- What stands under the given components. -/
def node? (t : FileTree) (place : List String) : Option Node :=
  match t.files.lookup place with
  | some contents => some (.file contents)
  | none =>
    if place.isEmpty ∨ t.files.any (fun f => place.isPrefixOf f.1) then some .directory else none

/-- Walk from a directory along components; two dots lead back up, but not out of the tree. -/
def walk (t : FileTree) (place : List String) : List String → Except FileFault (List String)
  | [] => .ok place
  | c :: rest =>
    match t.node? place with
    | none => .error .notFound
    | some (.file _) => .error .notADirectory
    | some .directory =>
      if c = ".." then
        if place.isEmpty then .error .notFound else t.walk place.dropLast rest
      else t.walk (place ++ [c]) rest

/-- What a path leads to. -/
def find (t : FileTree) (p : Path) : Except FileFault Node := do
  if p.text.isEmpty ∨ p.isAbsolute then throw .notFound
  let place ← t.walk [] p.components
  match t.node? place with
  | none => throw .notFound
  | some (.file contents) =>
    if p.namesDirectory then throw .notADirectory else return .file contents
  | some .directory => return .directory

/-- Whether a path leads to anything. -/
def exists? (t : FileTree) (p : Path) : Bool :=
  match t.find p with
  | .ok _ => true
  | .error _ => false

/-- The contents of a file. -/
def read (t : FileTree) (p : Path) : Except FileFault Bytes := do
  match ← t.find p with
  | .file contents => return contents
  | .directory => throw .isADirectory

/-- The contents of a text file. -/
def readText (t : FileTree) (p : Path) : Except FileFault String := do
  match Bytes.toText? (← t.read p) with
  | some text => return text
  | none => throw .notText

end FileTree

end SceneBatch
