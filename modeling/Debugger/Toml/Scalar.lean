import Debugger.Toml.Cursor

/-! # Values without parts

Strings in their four notations, numbers, truth values, dates and times.
-/

namespace Debugger.Toml

open Grammar

/-! ### Blanks -/

def isBlank (c : Char) : Bool := c == ' ' || c == '\t'

/-- Whether a character may stand in a line. -/
def isPlain (c : Char) : Bool := c == '\t' || ' ' ≤ c && c ≤ '~' || '\x80' ≤ c

def blanks : Grammar Unit := do let _ ← takeWhile isBlank

def newline : Grammar Unit := char '\n' <|> (char '\r' *> char '\n')

def comment : Grammar Unit := do
  char '#'
  let _ ← takeWhile isPlain

/-- Blanks, ends of lines and comments with their ends. -/
def gap : Grammar Unit := do
  let blank := do let _ ← takeWhile1 isBlank
  let _ ← many (blank <|> newline <|> (comment *> newline))

/-- What may follow something on its line, to the line's end. -/
def lineRest : Grammar Unit := do
  blanks
  let _ ← optional comment
  newline <|> done

/-! ### Strings -/

def isHexDigit (c : Char) : Bool :=
  c.isDigit || 'a' ≤ c && c ≤ 'f' || 'A' ≤ c && c ≤ 'F'

def hexValue (c : Char) : Nat :=
  if c.isDigit then c.toNat - 48 else if 'a' ≤ c then c.toNat - 87 else c.toNat - 55

/-- The number that digits write. -/
def digitsValue (base : Nat) (ds : List Char) : Nat := ds.foldl (fun n d => n * base + hexValue d) 0

/-- Exactly so many of something. -/
def exactly (p : Char → Bool) : Nat → Grammar (List Char)
  | 0 => pure []
  | n + 1 => do return (← satisfy p) :: (← exactly p n)

/-- A character by its number. -/
def numbered (digits : Nat) : Grammar Char := do
  let n := digitsValue 16 (← exactly isHexDigit digits)
  guard n.isValidChar
  return Char.ofNat n

/-- A backslash and what it stands for. -/
def escape : Grammar Char := do
  char '\\'
  match ← satisfy fun _ => true with
  | 'b' => return '\x08'
  | 't' => return '\t'
  | 'n' => return '\n'
  | 'f' => return '\x0c'
  | 'r' => return '\r'
  | '"' => return '"'
  | '\\' => return '\\'
  | 'u' => numbered 4
  | 'U' => numbered 8
  | _ => failure

/-- A string in one line. -/
def basicString : Grammar (List Char) := do
  char '"'
  let cs ← many (satisfy (fun c => isPlain c && c != '"' && c != '\\') <|> escape)
  char '"'
  return cs

/-- A string in one line without escapes. -/
def literalString : Grammar (List Char) := do
  char '\''
  let cs ← takeWhile fun c => isPlain c && c != '\''
  char '\''
  return cs

/-- The rest of a string of several lines: three quotes end it, and up to two more before these belong to
it. -/
def multilineRest (quote : Char) (content : Grammar (List Char)) : (fuel : Nat) → Grammar (List Char)
  | 0 => failure
  | fuel + 1 =>
    (do return (← content) ++ (← multilineRest quote content fuel)) <|>
    (do
      let run ← takeWhile1 (· == quote)
      if run.length < 3 then
        return run ++ (← multilineRest quote content fuel)
      else if run.length ≤ 5 then
        return run.drop 3
      else
        failure)

/-- A string of several lines: an end of line right after the quotes does not count. -/
def multiline (quote : Char) (content : Grammar (List Char)) : Grammar (List Char) := do
  word [quote, quote, quote]
  let _ ← optional newline
  multilineRest quote content ((← get).rest.length + 1)

/-- A backslash at the end of a line, with the blank space up to the next text. -/
def foldedLine : Grammar Unit := do
  char '\\'
  blanks
  newline
  let blank := do let _ ← takeWhile1 isBlank
  let _ ← many (blank <|> newline)

def multilineBasicString : Grammar (List Char) :=
  multiline '"' ((takeWhile1 fun c => isPlain c && c != '"' && c != '\\') <|>
    ((fun _ => []) <$> foldedLine) <|> ((fun c => [c]) <$> escape) <|>
    ((fun _ => ['\n']) <$> newline))

def multilineLiteralString : Grammar (List Char) :=
  multiline '\'' ((takeWhile1 fun c => isPlain c && c != '\'') <|> ((fun _ => ['\n']) <$> newline))

def string : Grammar String :=
  String.ofList <$>
    (multilineBasicString <|> basicString <|> multilineLiteralString <|> literalString)

/-! ### Numbers -/

/-- Digits with single underscores between them. -/
def digits (p : Char → Bool) : Grammar (List Char) := do
  let first ← satisfy p
  let more ← many (satisfy p <|> (char '_' *> satisfy p))
  return first :: more

/-- A sign; the answer is whether it is a minus. -/
def sign : Grammar Bool := do
  let s ← optional (satisfy fun c => c == '+' || c == '-')
  return s == some '-'

/-- A sign and decimal digits; no number but zero begins with a zero. -/
def signedDigits : Grammar (Bool × List Char) := do
  let negative ← sign
  let ds ← (do
    let c ← peek?
    guard (c != some '0')
    digits Char.isDigit) <|> ((fun c => [c]) <$> satisfy Char.isDigit)
  return (negative, ds)

/-- The whole numbers that a document can hold. -/
def isStorable (i : Int) : Bool := Int64.minValue.toInt ≤ i && i ≤ Int64.maxValue.toInt

def radixInteger (letter : Char) (base : Nat) : Grammar Int := do
  word ['0', letter]
  let ds ← digits fun c => isHexDigit c && hexValue c < base
  let i : Int := digitsValue base ds
  guard (isStorable i)
  return i

def decimalInteger : Grammar Int := do
  let (negative, ds) ← signedDigits
  let n : Int := digitsValue 10 ds
  let i := if negative then -n else n
  guard (isStorable i)
  return i

def integer : Grammar Int :=
  radixInteger 'x' 16 <|> radixInteger 'o' 8 <|> radixInteger 'b' 2 <|> decimalInteger

/-- The power of ten after an `e`. -/
def exponent : Grammar Int := do
  let _ ← satisfy fun c => c == 'e' || c == 'E'
  let negative ← sign
  let n : Int := digitsValue 10 (← digits Char.isDigit)
  return if negative then -n else n

def fraction : Grammar (List Char) := do
  char '.'
  digits Char.isDigit

/-- A number with a fraction, an exponent or both; one too large for its format is refused unless it is
negative. -/
def finiteFloat : Grammar Decimal.Binary := do
  let (negative, whole) ← signedDigits
  let fractional ← optional fraction
  let power ← optional exponent
  guard (fractional.isSome || power.isSome)
  let places := fractional.getD []
  let x := Decimal.Binary.ofDecimal .double negative (digitsValue 10 (whole ++ places))
    (power.getD 0 - places.length)
  guard (x ≠ .infinite false)
  return x

def specialFloat : Grammar Decimal.Binary := do
  let negative ← sign
  (do word ['i', 'n', 'f']; return .infinite negative) <|> (do word ['n', 'a', 'n']; return .nan)

def float : Grammar Decimal.Binary := finiteFloat <|> specialFloat

def boolean : Grammar Bool :=
  (do word ['t', 'r', 'u', 'e']; return true) <|> (do word ['f', 'a', 'l', 's', 'e']; return false)

/-! ### Dates and times -/

/-- A number of two digits within bounds. -/
def twoDigits (low high : Nat) : Grammar Nat := do
  let n := digitsValue 10 (← exactly Char.isDigit 2)
  guard (low ≤ n && n ≤ high)
  return n

def daysInMonth (year month : Nat) : Nat :=
  if month = 2 then (if year % 4 = 0 && (year % 100 ≠ 0 || year % 400 = 0) then 29 else 28)
  else if month = 4 || month = 6 || month = 9 || month = 11 then 30
  else 31

def date : Grammar Unit := do
  let year := digitsValue 10 (← exactly Char.isDigit 4)
  char '-'
  let month ← twoDigits 1 12
  char '-'
  let _ ← twoDigits 1 (daysInMonth year month)

def time : Grammar Unit := do
  let _ ← twoDigits 0 23
  char ':'
  let _ ← twoDigits 0 59
  char ':'
  let _ ← twoDigits 0 60
  let _ ← optional (char '.' *> takeWhile1 Char.isDigit)

def timeOffset : Grammar Unit :=
  (do let _ ← satisfy fun c => c == 'Z' || c == 'z') <|> do
    let _ ← satisfy fun c => c == '+' || c == '-'
    let _ ← twoDigits 0 23
    char ':'
    let _ ← twoDigits 0 59

/-- A date, a time, or a date with a time and perhaps its distance from universal time. -/
def dateTime : Grammar Unit :=
  (do
    date
    let _ ← optional do
      let _ ← satisfy fun c => c == 'T' || c == 't' || c == ' '
      time
      let _ ← optional timeOffset) <|> time

/-! ### Scalars -/

/-- A value without parts. -/
def scalar : Grammar Item := do
  let (make, span) ← spanned <|
    ((fun s (p : Span) => Item.text p s) <$> string) <|>
    ((fun _ (p : Span) => Item.dateTime p) <$> dateTime) <|>
    ((fun x (p : Span) => Item.float p x) <$> float) <|>
    ((fun i (p : Span) => Item.integer p i) <$> integer) <|>
    ((fun b (p : Span) => Item.boolean p b) <$> boolean)
  return make span

end Debugger.Toml
