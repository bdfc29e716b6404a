import GrammarForge.CommandLine.Commands

/-!
# The outer layer

The program works on a picture of the files below the current directory, taken when it starts. When
it is done, what is new in the picture is written to the disk.
-/

namespace GrammarForge.Disk

def locationOf (path : String) : Location := (Path.parts path).filter Path.isComponent

/-- The directories on the way to a location, which is one itself. -/
def ancestorsOf (place : Location) : List (Location × Node) :=
  (List.range place.length).map fun n => (place.take (n + 1), .directory)

/-- Take a picture of the files below the current directory. -/
def picture : IO FileSystem := do
  let root ← IO.currentDir
  let current := locationOf root.toString
  let mut nodes : Array (Location × Node) := (ancestorsOf current).toArray
  for path in ← root.walkDir do
    let place := locationOf path.toString
    if ← path.isDir then nodes := nodes.push (place, .directory)
    else
      match ← (IO.FS.readBinFile path).toBaseIO with
      | .ok content => nodes := nodes.push (place, .file content.data.toList)
      | .error _ => pure ()
  return .ofNodes current nodes.toList

def save (before after : FileSystem) : IO Unit := do
  for (place, node) in after.nodes do
    if before.node? place ≠ some node then
      let path := FileSystem.absolutePath place
      match node with
      | .directory => IO.FS.createDirAll path
      | .file content => IO.FS.writeBinFile path ⟨content.toArray⟩

end GrammarForge.Disk

open GrammarForge

def main (args : List String) : IO UInt32 := do
  let before ← Disk.picture
  let outcome := Program.run .standard args before
  Disk.save before outcome.files
  for line in outcome.output do IO.println line
  for line in outcome.problems do IO.eprintln line
  return outcome.exitCode
