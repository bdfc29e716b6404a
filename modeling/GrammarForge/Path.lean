import GrammarForge.Text.Split

/-!
# Paths

A path is kept as the text that was given, since that text is what messages show. Its parts are
found by cutting at slashes. Empty parts, and `.` anywhere but at the front of a relative path, say
nothing about where the path leads and are passed over.
-/

namespace GrammarForge.Path

def isAbsolute (path : String) : Bool := path.toList.head? = some '/'

def parts (path : String) : List String := Text.splitAtChar '/' path

def isComponent (part : String) : Bool := part ≠ "" && part ≠ "."

/-- The parts up to each component, from the whole path to its first component. All lists of parts
here have the last part first. -/
def ancestorParts : List String → List (List String)
  | [] => []
  | [first] => if first = "" then [] else [[first]]
  | last :: before =>
    if isComponent last then (last :: before) :: ancestorParts before else ancestorParts before

/-- The path without what follows its last component, the same without its last component, and so on
down to the first component. -/
def ancestors (path : String) : List String :=
  (ancestorParts (parts path).reverse).map fun parts => "/".intercalate parts.reverse

def parent? (path : String) : Option String :=
  match ancestors path with
  | [] => none
  | [_] => some (if isAbsolute path then "/" else "")
  | _ :: parent :: _ => some parent

def fileName? (path : String) : Option String :=
  match ancestorParts (parts path).reverse with
  | (last :: _) :: _ => if last = "." || last = ".." then none else some last
  | _ => none

/-- The part of a name after its last dot. A name without a dot has none, nor has one whose only dot
is at the front. -/
def extensionOf (name : String) : Option String :=
  let chars := name.toList
  let after := chars.reverse.takeWhile (· ≠ '.')
  if after.length + 1 < chars.length then some (String.ofList after.reverse) else none

def extension (path : String) : String := ((fileName? path).bind extensionOf).getD ""

/-- The path `path`, taken relative to `base` unless it is absolute. -/
def join (base path : String) : String :=
  if isAbsolute path then path
  else if base = "" || base.toList.getLast? = some '/' then base ++ path
  else base ++ "/" ++ path

end GrammarForge.Path
