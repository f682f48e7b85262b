import Debugger.Toml.Scalar

/-! # Parsing documents

Keys, values with parts, headers and lines.  Values nest to a limited depth.
-/

namespace Debugger.Toml

open Grammar

/-- Values nest less deep than this, and dotted keys have fewer parts. -/
def nestingLimit : Nat := 80

def isBareKeyChar (c : Char) : Bool := c.isAlphanum || c == '-' || c == '_'

/-- A key without dots. -/
def simpleKey : Grammar Key := do
  let (cs, span) ← spanned (basicString <|> literalString <|> takeWhile1 isBareKeyChar)
  return ⟨String.ofList cs, span⟩

/-- A key: the keys before its last dot, and the last one. -/
def dottedKey : Grammar (List Key × Key) := do
  let keys ← separated (blanks *> simpleKey <* blanks) (char '.')
  guard (keys.length < nestingLimit)
  match keys.getLast? with
  | some key => return (keys.dropLast, key)
  | none => failure

/-- A key, an equals sign and a value. -/
def pair (value : Grammar Item) : Grammar (List Key × Key × Item) := do
  let (path, key) ← dottedKey
  char '='
  blanks
  return (path, key, ← value)

/-- Values in brackets; a comma may follow the last one. -/
def array (value : Grammar Item) : Grammar (List Item) := do
  char '['
  let items ← optional (separated (gap *> value <* gap) (char ','))
  if items.isSome then
    let _ ← optional (char ',')
  gap
  char ']'
  return items.getD []

/-- Pairs in braces, all in one line. -/
def inlineTable (value : Grammar Item) : Grammar Entries := do
  char '\x7b'
  let pairs ← optional (separated (pair value <* blanks) (char ','))
  blanks
  char '\x7d'
  let insert (es : Entries) (p : List Key × Key × Item) : Option Entries :=
    es.insert p.1 p.2.1 p.2.2
  match (pairs.getD []).foldlM insert [] with
  | some es => return es
  | none => failure

/-- A value whose parts nest at most `depth` deep. -/
def valueUpTo : (depth : Nat) → Grammar Item
  | 0 => scalar
  | depth + 1 => scalar <|> do
    let inside := valueUpTo depth
    let (make, span) ← spanned <|
      ((fun is (p : Span) => Item.array p is) <$> array inside) <|>
      ((fun es (p : Span) => Item.table (some p) .inline es) <$> inlineTable inside)
    return make span

def value : Grammar Item := valueUpTo (nestingLimit - 1)

/-- A header between its brackets. -/
def headerIn (opening closing : List Char) : Grammar (List Key × Span) := do
  let ((path, key), span) ← spanned (word opening *> dottedKey <* word closing)
  lineRest
  return (path ++ [key], span)

/-- One line, or a pair of several lines. -/
def line (d : Draft) : Grammar Draft := do
  match ← peek? with
  | some '#' =>
    comment
    newline <|> done
    return d
  | some '\n' | some '\r' =>
    newline
    return d
  | some '[' =>
    let double ← optional (headerIn ['[', '['] [']', ']'])
    match double with
    | some (path, span) => (d.beginElement path span).elim failure pure
    | none =>
      let (path, span) ← headerIn ['['] [']']
      (d.begin path span).elim failure pure
  | _ =>
    let (path, key, v) ← pair value
    lineRest
    (d.insert path key v).elim failure pure

/-- All lines, at most `n`. -/
def lines : (n : Nat) → Draft → Grammar Draft
  | 0, d => pure d
  | n + 1, d => do
    if (← peek?).isNone then return d
    let d ← line d
    blanks
    lines n d

def document : Grammar Draft := do
  let _ ← optional (char '\ufeff')
  blanks
  let d ← lines (← get).rest.length {}
  done
  return d

/-- The entries of the document that a text writes, if it writes one. -/
def parse? (text : String) : Option Entries := do
  let (d, _) ← document ⟨0, text.toList⟩
  d.finish

end Debugger.Toml
