import GrammarForge.Toml.Value

/-!
# TOML documents

A document is read line by line. A line opens a table, or gives a value to a path in the table that
was opened last. The format is read only as far as settings need it: a table cannot be opened within
or around another one, nor after something else was said about it, and there are no arrays of tables.
-/

namespace GrammarForge.Toml

structure Document where
  /-- The tables that were opened. -/
  tables : List (List String)
  /-- The paths that were given values, from the top of the document. -/
  entries : List (List String × Value)

namespace Document

def empty : Document := ⟨[], []⟩

def openTable (d : Document) : List String := d.tables.getLast?.getD []

def addTable (path : List String) (d : Document) : Option Document :=
  if isFree path (d.tables ++ d.entries.map (·.1)) then
    some { d with tables := d.tables ++ [path] }
  else none

def addEntry (path : List String) (value : Value) (d : Document) : Option Document :=
  let path := d.openTable ++ path
  if isFree path (d.entries.map (·.1)) then some { d with entries := d.entries ++ [(path, value)] }
  else none

def readLine (tokens : List Token) (d : Document) : Option (Document × List Token) :=
  match tokens with
  | .mark '[' :: rest => do
    match ← readPath rest with
    | (path, .mark ']' :: rest) => return (← d.addTable path, rest)
    | _ => none
  | tokens => do
    match ← readPath tokens with
    | (path, .mark '=' :: rest) =>
      let (value, rest) ← readValue (skipBlanks rest)
      return (← d.addEntry path value, rest)
    | _ => none

def readLines : Nat → List Token → Document → Option Document
  | 0, _, _ => none
  | bound + 1, tokens, d =>
    match skipGap tokens with
    | [] => some d
    | tokens => do
      let (d, rest) ← d.readLine tokens
      match skipBlanks rest with
      | [] => some d
      | .newline :: rest => readLines bound rest d
      | _ => none

/-- Read a document. Every line takes a token, so the bound is never reached. -/
def parse (text : String) : Option Document := do
  let tokens ← Token.scan text
  readLines (tokens.length + 1) tokens .empty

end Document

end GrammarForge.Toml
