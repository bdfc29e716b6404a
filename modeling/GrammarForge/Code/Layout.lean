/-!
# Layout of generated code

Generated code is a list of items: lines, comments and blocks. Layout turns items into text, one
line each, at the indentation of the place where they stand. An item's text may itself hold line
breaks; they are kept, and only the first line is indented.
-/

namespace GrammarForge.Code

inductive Item where
  | line (text : String)
  /-- An empty line, which is never indented. -/
  | blank
  | comment (text : String)
  | doc (text : String)
  | indent
  /-- Indent what follows by one step less. The left margin is not crossed. -/
  | dedent
  | block (header : String) (body : List Item)
  | branch (condition : String) (body other : List Item)
deriving Inhabited

def indentation : String := "    "

def layLine (level : Nat) (text : String) : String :=
  String.join (List.replicate level indentation) ++ text ++ "\n"

mutual

/-- The text of an item at a level of indentation, and the level after it. -/
def Item.lay (level : Nat) : Item → String × Nat
  | .line text => (layLine level text, level)
  | .blank => ("\n", level)
  | .comment text => (layLine level ("// " ++ text), level)
  | .doc text => (layLine level ("/// " ++ text), level)
  | .indent => ("", level + 1)
  | .dedent => ("", level - 1)
  | .block header body =>
    let (inner, after) := layItems (level + 1) body
    (layLine level (header ++ " \x7b") ++ inner ++ layLine (after - 1) "\x7d", after - 1)
  | .branch condition body other =>
    let (first, between) := layItems (level + 1) body
    let (second, after) := layItems (between - 1 + 1) other
    (layLine level ("if " ++ condition ++ " \x7b") ++ first ++
      layLine (between - 1) "\x7d else \x7b" ++ second ++ layLine (after - 1) "\x7d", after - 1)

def layItems (level : Nat) : List Item → String × Nat
  | [] => ("", level)
  | item :: rest =>
    let (text, next) := item.lay level
    let (more, after) := layItems next rest
    (text ++ more, after)

end

def layout (items : List Item) : String := (layItems 0 items).1

end GrammarForge.Code
