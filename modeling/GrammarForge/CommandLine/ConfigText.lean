import GrammarForge.CommandLine.Config
import GrammarForge.Toml.Document

/-!
# The text of a configuration file

A reader for the format of configuration files, with which the program is run. There is one table of
settings, and nothing else is accepted.
-/

namespace GrammarForge.Config

def largestLimit : Nat := 18446744073709551615

def tableName : String := "processor"

inductive Field where
  | grammars
  | outDirectory
  | sourceRoots
  | maxRounds
deriving DecidableEq

/-- The fields in order. -/
def fields : List Field := [.grammars, .outDirectory, .sourceRoots, .maxRounds]

def Field.ofKey? : String → Option Field
  | "grammars" => some .grammars
  | "out_dir" => some .outDirectory
  | "source_roots" => some .sourceRoots
  | "max_rounds" => some .maxRounds
  | _ => none

def text? : Toml.Value → Option String
  | .text content => some content
  | _ => none

def texts? : Toml.Value → Option (List String)
  | .array items => items.mapM text?
  | _ => none

def limit? : Toml.Value → Option Nat
  | .integer numeral => do
    let n ← numeral.value?
    if 0 ≤ n ∧ n ≤ largestLimit then some n.toNat else none
  | _ => none

def set (c : Config) (field : Field) (value : Toml.Value) : Option Config :=
  match field with
  | .grammars => (texts? value).map fun grammars => { c with grammars }
  | .outDirectory => (text? value).map fun outDirectory => { c with outDirectory }
  | .sourceRoots => (texts? value).map fun sourceRoots => { c with sourceRoots }
  | .maxRounds => (limit? value).map fun maxRounds => { c with maxRounds }

def setAll (c : Config) (values : List (Field × Toml.Value)) : Option Config :=
  values.foldlM (fun c (field, value) => c.set field value) c

/-- The field at a path within the table of settings. -/
def fieldAt? : List String → Option Field
  | [key] => Field.ofKey? key
  | _ => none

def valuesOfTable (entries : List (List String × Toml.Value)) :
    Option (List (Field × Toml.Value)) :=
  entries.mapM fun (path, value) => (fieldAt? path).map fun field => (field, value)

/-- The values in an entry at the top of a document. The table of settings may be written as a table
in braces, or as an array of values in the order of the fields. -/
def valuesOfEntry : List String × Toml.Value → Option (List (Field × Toml.Value))
  | (name :: path, value) =>
    if name ≠ tableName then none
    else
      match path, value with
      | [], .table entries => valuesOfTable entries
      | [], .array items => some (fields.zip items)
      | [], _ => none
      | path, value => valuesOfTable [(path, value)]
  | ([], _) => none

def ofDocument (d : Toml.Document) : Option Config :=
  if d.tables.all (· = [tableName]) then do
    let values ← d.entries.mapM valuesOfEntry
    standard.setAll values.flatten
  else none

def parse (text : String) : Option Config := (Toml.Document.parse text).bind ofDocument

end GrammarForge.Config
