import GrammarForge.FileSystem

/-!
# Buffered files

A writer for a file that collects small pieces before it hands them to the file system. Whatever
the sizes of the pieces, once the buffer is flushed the file has got all of them, in order.
-/

namespace GrammarForge

structure BufferedFile where
  place : Location
  /-- Where in the file the next byte goes. -/
  offset : Nat
  /-- What the file has not got yet. -/
  pending : Bytes
deriving DecidableEq

namespace BufferedFile

def capacity : Nat := 8192

def new (place : Location) : BufferedFile := ⟨place, 0, []⟩

def spare (w : BufferedFile) : Nat := capacity - w.pending.length

def pass (bytes : Bytes) (w : BufferedFile) (files : FileSystem) : BufferedFile × FileSystem :=
  ({ w with offset := w.offset + bytes.length }, files.writeAt w.place w.offset bytes)

def flush (w : BufferedFile) (files : FileSystem) : BufferedFile × FileSystem :=
  { w with pending := [] }.pass w.pending files

/-- Bytes go to the buffer, which is emptied before if there is no room for them. A piece that would
fill the buffer alone goes to the file. -/
def write (bytes : Bytes) (w : BufferedFile) (files : FileSystem) : BufferedFile × FileSystem :=
  let (w, files) := if w.spare < bytes.length then w.flush files else (w, files)
  if capacity ≤ bytes.length then w.pass bytes files
  else ({ w with pending := w.pending ++ bytes }, files)

end BufferedFile

end GrammarForge
