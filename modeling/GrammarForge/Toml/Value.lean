import GrammarForge.Toml.Moment
import GrammarForge.Toml.Token

/-!
# Values in TOML

Texts, integers, truth values, arrays of values and tables in braces are what settings are made of.
Other numbers, dates and times are values as well, but no setting takes one, so that they are kept
as they are written. An entry of a table has a path, the keys on the way to its value. Neither paths
nor nested values may be arbitrarily long or deep.
-/

namespace GrammarForge.Toml

inductive Value where
  | text (content : String)
  | integer (numeral : Numeral)
  | float (written : String)
  | moment (written : String)
  | truth (b : Bool)
  | array (items : List Value)
  | table (entries : List (List String × Value))
deriving Inhabited

def skipBlanks (tokens : List Token) : List Token :=
  tokens.dropWhile fun
    | .blank _ => true
    | _ => false

def skipGap (tokens : List Token) : List Token :=
  tokens.dropWhile fun
    | .blank _ => true
    | .newline => true
    | _ => false

def Value.ofWritten? (written : String) : Option Value :=
  let chars := written.toList
  if written = "true" then some (.truth true)
  else if written = "false" then some (.truth false)
  else if isFloat chars then some (.float written)
  else if isMoment chars then some (.moment written)
  else (Numeral.ofChars? chars).map .integer

/-- What is written without quotes: words with points or blanks between them. A blank at the end
does not belong to it. -/
def readWritten : List Token → String × List Token
  | .word w :: rest =>
    let (more, after) := readWritten rest
    (w ++ more, after)
  | .mark '.' :: rest =>
    let (more, after) := readWritten rest
    ("." ++ more, after)
  | .blank b :: .word w :: rest =>
    let (more, after) := readWritten rest
    (b ++ w ++ more, after)
  | tokens => ("", tokens)

def isBareKeyChar (c : Char) : Bool := c.isAlphanum || c = '-' || c = '_'

def Token.key? : Token → Option String
  | .word w => if w.toList.all isBareKeyChar then some w else none
  | .text content false => some content
  | _ => none

def maxPathKeys : Nat := 80

mutual

/-- Read keys with dots between them. The result is the keys and what follows them and the blanks
after them. -/
def readKeys : List Token → Option (List String × List Token)
  | [] => none
  | .blank _ :: rest => readKeys rest
  | t :: rest => do
    let key ← t.key?
    let (keys, after) ← readMoreKeys rest
    return (key :: keys, after)

def readMoreKeys : List Token → Option (List String × List Token)
  | .blank _ :: rest => readMoreKeys rest
  | .mark '.' :: rest => readKeys rest
  | tokens => some ([], tokens)

end

def readPath (tokens : List Token) : Option (List String × List Token) :=
  (readKeys tokens).filter (·.1.length ≤ maxPathKeys)

/-- Whether a path may be added to others: neither leads through the end of the other. -/
def isFree (path : List String) (others : List (List String)) : Bool :=
  others.all fun other => !path.isPrefixOf other && !other.isPrefixOf path

def maxNesting : Nat := 80

mutual

/-- Read a value. The first argument bounds the number of steps, the second says how many arrays and
tables may lie within each other. -/
def readValueWithin : Nat → Nat → List Token → Option (Value × List Token)
  | 0, _, _ => none
  | steps + 1, depth + 1, .mark '[' :: rest => readItems steps depth [] rest
  | steps + 1, depth + 1, .mark '\x7b' :: rest => readEntries steps depth [] rest
  | _ + 1, _, .text content _ :: rest => some (.text content, rest)
  | _ + 1, _, .word w :: rest =>
    let (written, after) := readWritten (.word w :: rest)
    (Value.ofWritten? written).map fun value => (value, after)
  | _ + 1, _, _ => none

def readItems : Nat → Nat → List Value → List Token → Option (Value × List Token)
  | 0, _, _, _ => none
  | steps + 1, depth, items, tokens =>
    match skipGap tokens with
    | .mark ']' :: rest => some (.array items, rest)
    | tokens => do
      let (item, rest) ← readValueWithin steps depth tokens
      match skipGap rest with
      | .mark ',' :: rest => readItems steps depth (items ++ [item]) rest
      | .mark ']' :: rest => some (.array (items ++ [item]), rest)
      | _ => none

def readEntries : Nat → Nat → List (List String × Value) → List Token →
    Option (Value × List Token)
  | 0, _, _, _ => none
  | steps + 1, depth, entries, tokens =>
    match skipGap tokens with
    | .mark '\x7d' :: rest => some (.table entries, rest)
    | tokens => do
      let (path, rest) ← readPath tokens
      match skipGap rest with
      | .mark '=' :: rest =>
        let (value, rest) ← readValueWithin steps depth (skipGap rest)
        if isFree path (entries.map (·.1)) then
          match skipGap rest with
          | .mark ',' :: rest => readEntries steps depth (entries ++ [(path, value)]) rest
          | .mark '\x7d' :: rest => some (.table (entries ++ [(path, value)]), rest)
          | _ => none
        else none
      | _ => none

end

/-- Read a value. Every two steps take a token, so the bound on steps is never reached. -/
def readValue (tokens : List Token) : Option (Value × List Token) :=
  readValueWithin (2 * tokens.length + 1) maxNesting tokens

end GrammarForge.Toml
