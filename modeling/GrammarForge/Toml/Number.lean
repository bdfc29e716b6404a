import GrammarForge.Text.Split
import GrammarForge.Toml.Quoted

/-!
# Numbers in TOML

Integers in four bases, and numbers with a fraction or an exponent. Underscores may stand between
digits. An integer is read in two steps: a document is accepted if it has something that is written
as an integer, and whether this denotes one, digit by digit, shows when its value is asked for.
-/

namespace GrammarForge.Toml

/-- Read digits, with single underscores between them. `afterDigit` tells whether the character
before was a digit. -/
def digitsFrom (base value : Nat) (afterDigit : Bool) : List Char → Option Nat
  | [] => if afterDigit then some value else none
  | c :: rest =>
    if c = '_' then (if afterDigit then digitsFrom base value false rest else none)
    else
      match digitValue? base c with
      | some d => digitsFrom base (value * base + d) true rest
      | none => none

def digits? (base : Nat) (chars : List Char) : Option Nat := digitsFrom base 0 false chars

def skipSign : List Char → List Char
  | '+' :: rest => rest
  | '-' :: rest => rest
  | chars => chars

def isGrouped (isDigit : Char → Bool) (chars : List Char) : Bool :=
  match Text.splitChars '_' chars with
  | (_, []) => true
  | (first, others) => (first :: others.dropLast).all endsWithDigit && others.all startsWithDigit
where
  startsWithDigit (group : List Char) : Bool := group.head?.any isDigit
  endsWithDigit (group : List Char) : Bool := group.getLast?.any isDigit

structure Numeral where
  base : Nat
  /-- Sign and digits, without the underscores between them. -/
  chars : List Char

namespace Numeral

def ofGrouped (base : Nat) (chars : List Char) : Numeral := ⟨base, chars.filter (· ≠ '_')⟩

/-- What follows the letter that tells the base. The digits may be missing. -/
def ofDigits? (base : Nat) (chars : List Char) : Option Numeral :=
  if chars = [] || (digits? base chars).isSome then some (ofGrouped base chars) else none

/-- Whether the characters are written as a decimal integer: a sign or none, a digit other than zero
unless it is the only one, more digits, and from the first underscore on anything but what stands in
dates and in fractions, as long as there are digits beside the underscores. -/
def isDecimal (chars : List Char) : Bool :=
  let unsigned := skipSign chars
  let rest := unsigned.dropWhile Char.isDigit
  unsigned ≠ [] && (unsigned.head? ≠ some '0' || unsigned = ['0']) &&
    (rest = [] ||
      (rest.head? = some '_' && !rest.any [' ', '.', 'e', 'E'].contains &&
        isGrouped (fun c => (digitValue? 16 c).isSome) chars))

def ofChars? : List Char → Option Numeral
  | '0' :: 'x' :: rest => ofDigits? 16 rest
  | '0' :: 'o' :: rest => ofDigits? 8 rest
  | '0' :: 'b' :: rest => ofDigits? 2 rest
  | chars => if isDecimal chars then some (ofGrouped 10 chars) else none

def value? (n : Numeral) : Option Int :=
  match n.chars with
  | '+' :: rest => (digits? n.base rest).map Int.ofNat
  | '-' :: rest => (digits? n.base rest).map fun value => -Int.ofNat value
  | chars => (digits? n.base chars).map Int.ofNat

end Numeral

def isDigitChar (c : Char) : Bool := c.isDigit || c = '_'

/-- The whole part of a number, which does not start with a zero unless that is its only digit. -/
def isWholePart (run : List Char) : Bool :=
  run.any Char.isDigit && (run.head? ≠ some '0' || (run.filter Char.isDigit).length = 1)

/-- An exponent with its letter. Unlike a whole part, it may start with zeros. -/
def isExponent : List Char → Bool
  | 'e' :: rest => isRun (skipSign rest)
  | 'E' :: rest => isRun (skipSign rest)
  | _ => false
where
  isRun (run : List Char) : Bool := run.any Char.isDigit && run.all isDigitChar

def isFraction : List Char → Bool
  | '.' :: rest =>
    let exponent := rest.dropWhile isDigitChar
    (rest.takeWhile isDigitChar).any Char.isDigit && (exponent = [] || isExponent exponent)
  | chars => isExponent chars

def isFloat (chars : List Char) : Bool :=
  let unsigned := skipSign chars
  unsigned = ['i', 'n', 'f'] || unsigned = ['n', 'a', 'n'] ||
    (isWholePart (unsigned.takeWhile isDigitChar) && isFraction (unsigned.dropWhile isDigitChar) &&
      isGrouped Char.isDigit chars)

end GrammarForge.Toml
