import GrammarForge.Path
import GrammarForge.SystemError

/-!
# File systems

A file system as a value: the files and directories that exist, by their location, and the current
directory. There are no links, so a location is the list of names on the way from the root, and a
path leads to at most one location. Every operation says which error it ends with and what the file
system is like afterwards. There is room for everything, so that a file that has been made can be
written.
-/

namespace GrammarForge

/-- The names on the way from the root. -/
abbrev Location := List String

abbrev Bytes := List UInt8

def encodeText (s : String) : Bytes := s.toUTF8.data.toList

def decodeText (bytes : Bytes) : Option String := String.fromUTF8? ⟨bytes.toArray⟩

inductive Node where
  | directory
  | file (content : Bytes)
deriving DecidableEq

structure FileSystem where
  current : Location
  nodes : List (Location × Node)
  /-- Every location is listed at most once, and the root, which is a directory, never. -/
  nodup : ([] :: nodes.map (·.1)).Nodup

namespace FileSystem

def maxNameLength : Nat := 255

def maxPathLength : Nat := 4095

def node? (fs : FileSystem) (place : Location) : Option Node :=
  if place = [] then some .directory else fs.nodes.lookup place

def isDirectory (fs : FileSystem) (place : Location) : Bool := fs.node? place = some .directory

/-- Put an entry into a list of nodes, in place of the one at the same location. -/
def setNode (place : Location) (node : Node) :
    List (Location × Node) → List (Location × Node)
  | [] => [(place, node)]
  | (p, n) :: rest => if p = place then (p, node) :: rest else (p, n) :: setNode place node rest

theorem map_fst_setNode (place : Location) (node : Node) (nodes : List (Location × Node)) :
    (setNode place node nodes).map (·.1) =
      if place ∈ nodes.map (·.1) then nodes.map (·.1) else nodes.map (·.1) ++ [place] := by
  induction nodes with
  | nil => rfl
  | cons entry rest ih =>
      rw [setNode]
      by_cases h : entry.1 = place
      · simp [h]
      · simp only [h, if_false, List.map_cons, ih, List.mem_cons, Ne.symm h, false_or]
        split <;> rfl

theorem nodup_setNode {place : Location} {nodes : List (Location × Node)} (hplace : place ≠ [])
    (h : ([] :: nodes.map (·.1)).Nodup) (node : Node) :
    ([] :: (setNode place node nodes).map (·.1)).Nodup := by
  rw [map_fst_setNode]
  split
  · exact h
  · rename_i hnew
    rw [← List.cons_append]
    refine List.nodup_append.2 ⟨h, by simp, ?_⟩
    rintro p hp q hq rfl
    obtain rfl := List.mem_singleton.1 hq
    exact (List.mem_cons.1 hp).elim hplace hnew

/-- The root stays a directory. -/
def set (fs : FileSystem) (place : Location) (node : Node) : FileSystem :=
  if h : place = [] then fs
  else ⟨fs.current, setNode place node fs.nodes, nodup_setNode h fs.nodup node⟩

def empty : FileSystem := ⟨[], [], by decide⟩

/-- The file system with these nodes. Of several at one location the last one counts. -/
def ofNodes (current : Location) (nodes : List (Location × Node)) : FileSystem :=
  nodes.foldl (fun fs (place, node) => fs.set place node) { empty with current }

def checkText (path : String) : Except SystemError Unit :=
  if path.toList.contains '\x00' then .error .nulInPath
  else if path = "" then .error .notFound
  else .ok ()

/-- Check what holds for every path that is handed to the system as a whole. -/
def checkPath (path : String) : Except SystemError Unit := do
  checkText path
  if maxPathLength < path.utf8ByteSize then .error .nameTooLong else .ok ()

def start (fs : FileSystem) (path : String) : Location :=
  if Path.isAbsolute path then [] else fs.current

def enter (fs : FileSystem) (place : Location) (part : String) : Except SystemError Location :=
  if !fs.isDirectory place then .error .notADirectory
  else if !Path.isComponent part then .ok place
  else if part = ".." then .ok place.dropLast
  else if maxNameLength < part.utf8ByteSize then .error .nameTooLong
  else if (fs.node? (place ++ [part])).isSome then .ok (place ++ [part])
  else .error .notFound

def locate (fs : FileSystem) (path : String) : Except SystemError Location := do
  checkPath path
  (Path.parts path).foldlM fs.enter (fs.start path)

def absolutePath (place : Location) : String := "/" ++ "/".intercalate place

/-- Go on by one part of a path, where the system is asked about the absolute path so far. -/
def enterAbsolute (fs : FileSystem) (place : Location) (part : String) :
    Except SystemError Location :=
  if Path.isComponent part && part ≠ ".." &&
      maxPathLength < (absolutePath (place ++ [part])).utf8ByteSize then .error .nameTooLong
  else fs.enter place part

/-- The absolute path of what a path names, without `.` and `..`. The system is asked part by part,
so that only the absolute path has a limited length. -/
def canonicalize (fs : FileSystem) (path : String) : Except SystemError String := do
  checkText path
  return absolutePath (← (Path.parts path).foldlM fs.enterAbsolute (fs.start path))

def isFileAt (fs : FileSystem) (path : String) : Bool :=
  match fs.locate path with
  | .ok place =>
    match fs.node? place with
    | some (.file _) => true
    | _ => false
  | .error _ => false

def isDirectoryAt (fs : FileSystem) (path : String) : Bool :=
  match fs.locate path with
  | .ok place => fs.isDirectory place
  | .error _ => false

/-- The directory in which a new entry would be made, and the last part of the path. The last part
is absent when the path is the root. -/
def locateNew (fs : FileSystem) (path : String) :
    Except SystemError (Location × Option String) := do
  checkPath path
  match (Path.parts path).reverse.dropWhile (· = "") with
  | [] => return ([], none)
  | last :: before =>
    let place ← before.reverse.foldlM fs.enter (fs.start path)
    if fs.isDirectory place then return (place, some last) else .error .notADirectory

def readBytes (fs : FileSystem) (path : String) : Except SystemError Bytes := do
  let place ← fs.locate path
  match fs.node? place with
  | some (.file content) => return content
  | some .directory => .error .isADirectory
  | none => .error .notFound

def readText (fs : FileSystem) (path : String) : Except SystemError String := do
  match decodeText (← fs.readBytes path) with
  | some text => return text
  | none => .error .notText

def makeDirectory (fs : FileSystem) (path : String) : Except SystemError FileSystem := do
  match ← fs.locateNew path with
  | (_, none) => .error .fileExists
  | (place, some last) =>
    if last = "." || last = ".." then .error .fileExists
    else if maxNameLength < last.utf8ByteSize then .error .nameTooLong
    else if (fs.node? (place ++ [last])).isSome then .error .fileExists
    else return fs.set (place ++ [last]) .directory

/-- An attempt to make a directory is also successful if there is one already. -/
def makeDirectoryIfMissing (fs : FileSystem) (path : String) : Except SystemError FileSystem :=
  match fs.makeDirectory path with
  | .ok fs => .ok fs
  | .error e =>
    if e.kind = .alreadyExists && fs.isDirectoryAt path then .ok fs else .error e

/-- Make the first of these directories, and as many of the others as are missing, each of which is
the parent of the one before it. What has been made before an error stays. -/
def makeAncestors (fs : FileSystem) : List String → Except SystemError Unit × FileSystem
  | [] => (.ok (), fs)
  | path :: outer =>
    match fs.makeDirectoryIfMissing path with
    | .ok fs => (.ok (), fs)
    | .error e =>
      if e.kind = .notFound then
        match fs.makeAncestors outer with
        | (.error e, fs) => (.error e, fs)
        | (.ok (), fs) =>
          match fs.makeDirectoryIfMissing path with
          | .ok fs => (.ok (), fs)
          | .error e => (.error e, fs)
      else (.error e, fs)

def makeDirectories (fs : FileSystem) (path : String) : Except SystemError Unit × FileSystem :=
  fs.makeAncestors (Path.ancestors path)

def createFile (fs : FileSystem) (path : String) : Except SystemError (Location × FileSystem) := do
  match ← fs.locateNew path with
  | (_, none) => .error .isADirectory
  | (place, some last) =>
    if last = "." || last = ".." || path.toList.getLast? = some '/' then .error .isADirectory
    else if maxNameLength < last.utf8ByteSize then .error .nameTooLong
    else
      let place := place ++ [last]
      if fs.isDirectory place then .error .isADirectory
      else return (place, fs.set place (.file []))

/-- Make an empty file, or empty the one that is there, and make missing directories before. -/
def createFileAndParents (fs : FileSystem) (path : String) :
    Except SystemError Location × FileSystem :=
  let (made, fs) : Except SystemError Unit × FileSystem :=
    match Path.parent? path with
    | some parent => if parent = "" then (.ok (), fs) else fs.makeDirectories parent
    | none => (.ok (), fs)
  match made with
  | .error e => (.error e, fs)
  | .ok () =>
    match fs.createFile path with
    | .error e => (.error e, fs)
    | .ok (place, fs) => (.ok place, fs)

/-- Content after `bytes` were written at `offset`. A gap before them is filled with zeros. -/
def overwrite (content : Bytes) (offset : Nat) (bytes : Bytes) : Bytes :=
  if bytes = [] then content
  else
    content.take offset ++ List.replicate (offset - content.length) 0 ++ bytes ++
      content.drop (offset + bytes.length)

def writeAt (fs : FileSystem) (place : Location) (offset : Nat) (bytes : Bytes) : FileSystem :=
  match fs.node? place with
  | some (.file content) => fs.set place (.file (overwrite content offset bytes))
  | _ => fs

end FileSystem

end GrammarForge
