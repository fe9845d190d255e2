import SceneBatch.Command.Basic

/-!
# The program

The command line over the files below the current directory.
-/

namespace SceneBatch

/-- Read all files below the current directory; those that cannot be read are left out. -/
def readFiles : IO FileTree := do
  let root ← IO.currentDir
  let depth := root.components.length
  let mut tree := FileTree.empty
  for path in ← root.walkDir do
    try
      let contents ← IO.FS.readBinFile path
      tree := tree.write ⟨"/".intercalate (path.components.drop depth)⟩ contents.toList
    catch _ => continue
  return tree

/-- Carry out a command line. Warnings and faults go to the standard error. -/
def carryOut (arguments : List String) : IO UInt32 := do
  let r := (Request.ofArguments arguments).perform (← readFiles)
  for line in r.lines do
    if line.level = .warn then IO.eprintln s!"[{line.level.label}] {line.text}"
  IO.print r.value.output
  for line in (r.value.fault.map CommandFault.lines).getD [] do
    IO.eprintln line
  return UInt32.ofNat r.value.code

end SceneBatch

/-- The program. -/
def main (arguments : List String) : IO UInt32 := SceneBatch.carryOut arguments
