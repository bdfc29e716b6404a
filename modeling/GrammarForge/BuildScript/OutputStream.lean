import GrammarForge.FileSystem

/-!
# Output streams

A stream takes bytes, all of them or only so many. Printing what does not fit leaves the part that
does fit on the stream and fails.
-/

namespace GrammarForge

structure OutputStream where
  taken : Bytes
  /-- How many bytes the stream takes altogether, if there is a limit. -/
  limit : Option Nat
  /-- The error of a stream that takes no more. -/
  failure : SystemError

namespace OutputStream

def unlimited : OutputStream := ⟨[], none, .writeZero⟩

/-- A stream that takes `limit` bytes. -/
def limited (limit : Nat) (failure : SystemError) : OutputStream := ⟨[], some limit, failure⟩

def print (bytes : Bytes) (s : OutputStream) : Except SystemError Unit × OutputStream :=
  match s.limit with
  | none => (.ok (), { s with taken := s.taken ++ bytes })
  | some limit =>
    let room := limit - s.taken.length
    (if bytes.length ≤ room then .ok () else .error s.failure,
      { s with taken := s.taken ++ bytes.take room })

def printLine (line : String) (s : OutputStream) : Except SystemError Unit × OutputStream :=
  s.print (encodeText (line ++ "\n"))

end OutputStream

end GrammarForge
