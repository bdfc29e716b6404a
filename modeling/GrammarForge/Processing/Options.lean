/-!
# Options

The settings of a run, each a text under a key. A key has one value, the last one that was set.
-/

namespace GrammarForge

abbrev Options := List (String × String)

namespace Options

/-- The key under which the list of grammars is handed over. -/
def grammarsKey : String := "grammars"

def get? (o : Options) (key : String) : Option String := o.lookup key

def set (key value : String) (o : Options) : Options := (key, value) :: o.filter (·.1 ≠ key)

/-- Set several values, the first one first. -/
def setAll (pairs : List (String × String)) (o : Options) : Options :=
  pairs.foldl (fun o (key, value) => o.set key value) o

theorem get?_set_self (key value : String) (o : Options) : (o.set key value).get? key = some value := by
  simp [get?, set]

end Options

end GrammarForge
