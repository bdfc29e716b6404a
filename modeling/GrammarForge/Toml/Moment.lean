import GrammarForge.Text.Split
import GrammarForge.Toml.Number

/-!
# Dates and times in TOML

A moment is a date, a time of day, or a date and then a time, which may say how far it is ahead of
universal time. Numbers in it have a fixed width and stay within their bounds; a day has to be there
in its month.
-/

namespace GrammarForge.Toml

def fixedNumber? (width : Nat) (chars : List Char) : Option Nat :=
  if chars.length = width && chars.all Char.isDigit then digits? 10 chars else none

def isTwoDigitsUpTo (bound : Nat) (chars : List Char) : Bool :=
  (fixedNumber? 2 chars).any (· ≤ bound)

def isLeapYear (year : Nat) : Bool := year % 4 = 0 && (year % 100 ≠ 0 || year % 400 = 0)

def daysInMonth (year month : Nat) : Nat :=
  if month = 2 then (if isLeapYear year then 29 else 28)
  else if month = 4 || month = 6 || month = 9 || month = 11 then 30
  else 31

def isDate (chars : List Char) : Bool :=
  match Text.splitChars '-' chars with
  | (year, [month, day]) =>
    match fixedNumber? 4 year, fixedNumber? 2 month, fixedNumber? 2 day with
    | some y, some m, some d => 1 ≤ m && m ≤ 12 && 1 ≤ d && d ≤ daysInMonth y m
    | _, _, _ => false
  | _ => false

/-- Seconds, of which there are 61 in a minute with a leap second, and a fraction of one. -/
def isSecond (chars : List Char) : Bool :=
  isTwoDigitsUpTo 60 (chars.take 2) &&
    match chars.drop 2 with
    | [] => true
    | '.' :: fraction => fraction ≠ [] && fraction.all Char.isDigit
    | _ => false

def isHourMinute (hour minute : List Char) : Bool :=
  isTwoDigitsUpTo 23 hour && isTwoDigitsUpTo 59 minute

/-- A time of day. Seconds may be left out. -/
def isTime (chars : List Char) : Bool :=
  match Text.splitChars ':' chars with
  | (hour, [minute]) => isHourMinute hour minute
  | (hour, [minute, second]) => isHourMinute hour minute && isSecond second
  | _ => false

def isOffset (chars : List Char) : Bool :=
  chars = ['Z'] || chars = ['z'] ||
    (chars.head?.any (fun c => c = '+' || c = '-') &&
      match Text.splitChars ':' chars.tail with
      | (hour, [minute]) => isHourMinute hour minute
      | _ => false)

def isTimeChar (c : Char) : Bool := c.isDigit || c = ':' || c = '.'

/-- What follows a date: nothing, or a time with its offset after a letter or a space. -/
def isTimeOfDate : List Char → Bool
  | [] => true
  | c :: rest =>
    let offset := rest.dropWhile isTimeChar
    (c = 'T' || c = 't' || c = ' ') && isTime (rest.takeWhile isTimeChar) &&
      (offset = [] || isOffset offset)

def isMoment (chars : List Char) : Bool :=
  let inDate (c : Char) : Bool := c.isDigit || c = '-'
  isTime chars || (isDate (chars.takeWhile inDate) && isTimeOfDate (chars.dropWhile inDate))

end GrammarForge.Toml
