import GrammarForge.LogicalName
import GrammarForge.Store.Basic
import GrammarForge.Store.BufferedFile

/-!
# Stores in directories

A store that writes every artifact to a file below an output directory, at the relative path of its
name. Further directories, the source roots, hold sources written by hand: an artifact for which one
of them has a file is there already. A text that is not a logical name has no file.
-/

namespace GrammarForge

structure DirectoryStore where
  outDirectory : String
  sourceRoots : List String
  /-- Created names in order. -/
  created : List String
  fresh : List String
deriving DecidableEq

namespace DirectoryStore

def new (outDirectory : String) (sourceRoots : List String) : DirectoryStore :=
  ⟨outDirectory, sourceRoots, [], []⟩

/-- The path of the artifact of a name, relative to the output directory. -/
def relativePath (name : String) : Except SystemError String :=
  match LogicalName.parse name with
  | .ok n => .ok n.relativePath
  | .error e => .error ⟨.invalidInput, e.message⟩

def pathOf (s : DirectoryStore) (name : String) : Except SystemError String :=
  (relativePath name).map (Path.join s.outDirectory)

/-- Whether one of the source roots has a file for this name. -/
def isHandWritten (s : DirectoryStore) (name : String) (files : FileSystem) : Bool :=
  match relativePath name with
  | .error _ => false
  | .ok path => s.sourceRoots.any fun root => files.isFileAt (Path.join root path)

def contains (s : DirectoryStore) (name : String) (files : FileSystem) : Bool :=
  s.created.contains name || s.isHandWritten name files

/-- Make the file of an artifact, which is emptied if it is there. -/
def createFile (s : DirectoryStore) (name : String) (files : FileSystem) :
    Except SystemError BufferedFile × FileSystem :=
  if s.created.contains name then
    (.error ⟨.alreadyExists, s!"artifact {name} was already created"⟩, files)
  else
    match s.pathOf name with
    | .error e => (.error e, files)
    | .ok path =>
      let (result, files) := files.createFileAndParents path
      (result.map .new, files)

def record (name : String) (s : DirectoryStore) : DirectoryStore :=
  { s with created := s.created ++ [name], fresh := s.fresh ++ [name] }

def contents? (s : DirectoryStore) (name : String) (files : FileSystem) : Option Bytes :=
  match s.pathOf name with
  | .error _ => none
  | .ok path => (files.readBytes path).toOption

instance : ArtifactStore DirectoryStore BufferedFile where
  contains name w := w.store.contains name w.files
  create name w :=
    match w.store.createFile name w.files with
    | (.error e, files) => (.error e, { w with files })
    | (.ok writer, files) => (.ok writer, ⟨w.store.record name, files⟩)
  write bytes writer w :=
    let (writer, files) := writer.write bytes w.files
    (.ok (), writer, { w with files })
  flush writer w :=
    let (writer, files) := writer.flush w.files
    (.ok (), writer, { w with files })
  close writer w := { w with files := (writer.flush w.files).2 }
  takeCreated s := (s.fresh, { s with fresh := [] })

instance : SteadyStore DirectoryStore := ⟨fun _ _ _ => rfl, fun _ _ => rfl⟩

end DirectoryStore

end GrammarForge
