/-!
# Errors of the system

What can go wrong when files and streams are used: a kind, by which programs tell errors apart, and
a message for people.
-/

namespace GrammarForge

inductive ErrorKind where
  | notFound
  | permissionDenied
  | alreadyExists
  | invalidInput
  | invalidData
  | invalidFilename
  | isADirectory
  | notADirectory
  | storageFull
  | writeZero
  | brokenPipe
  | other
deriving DecidableEq

structure SystemError where
  kind : ErrorKind
  message : String
deriving DecidableEq

namespace SystemError

def notFound : SystemError := ⟨.notFound, "No such file or directory (os error 2)"⟩

def fileExists : SystemError := ⟨.alreadyExists, "File exists (os error 17)"⟩

def notADirectory : SystemError := ⟨.notADirectory, "Not a directory (os error 20)"⟩

def isADirectory : SystemError := ⟨.isADirectory, "Is a directory (os error 21)"⟩

def storageFull : SystemError := ⟨.storageFull, "No space left on device (os error 28)"⟩

def nameTooLong : SystemError := ⟨.invalidFilename, "File name too long (os error 36)"⟩

/-- The path holds a NUL character and names nothing. -/
def nulInPath : SystemError := ⟨.invalidInput, "file name contained an unexpected NUL byte"⟩

/-- A text was asked for, and the bytes are not UTF-8. -/
def notText : SystemError := ⟨.invalidData, "stream did not contain valid UTF-8"⟩

/-- A writer took none of the bytes that were left. -/
def writeZero : SystemError := ⟨.writeZero, "failed to write whole buffer"⟩

end SystemError

end GrammarForge
