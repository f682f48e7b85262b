import Debugger.Decimal.Binary
import Debugger.Settings.Basic
import Debugger.Text.Alphanumeric
import Debugger.Text.Space

/-! # Log filters

What is logged is said by directives: a level for everything, or for what comes from a target or happens
in a span of work with given fields.  The most specific directive that concerns a message decides.
-/

namespace Debugger

/-- How much is logged. -/
inductive LogLevel where
  | off
  | error
  | warn
  | info
  | debug
  | trace
  deriving DecidableEq, Repr, Inhabited

namespace LogLevel

/-- From nothing to everything. -/
def all : List LogLevel := [off, error, warn, info, debug, trace]

def text : LogLevel → String
  | off => "off"
  | error => "error"
  | warn => "warn"
  | info => "info"
  | debug => "debug"
  | trace => "trace"

/-- Decimal digits, perhaps after a plus. -/
def natural? (cs : List Char) : Option Nat :=
  let cs := match cs with
    | '+' :: cs => cs
    | cs => cs
  if cs.isEmpty || !cs.all Char.isDigit then none
  else some (cs.foldl (fun n c => n * 10 + (c.toNat - 48)) 0)

/-- The level of that name, in large or small letters, or of that number. -/
def ofText? (s : String) : Option LogLevel :=
  match natural? s.toList with
  | some n => all[n]?
  | none => if s.isEmpty then some error else all.find? (·.text == Text.lower s)

end LogLevel

/-! ### Directives -/

/-- The value that a field has to have. -/
inductive FieldValue where
  | boolean (b : Bool)
  | float (x : Decimal.Binary)
  | natural (n : Nat)
  | integer (i : Int)
  | pattern (s : String)
  deriving DecidableEq, Repr, Inhabited

/-- A field that a span has to have. -/
structure FieldTest where
  name : String
  value : Option FieldValue
  deriving DecidableEq, Repr, Inhabited

/-- What a level is for. -/
structure LogDirective where
  target : Option String
  span : Option String
  fields : List FieldTest
  level : LogLevel
  deriving DecidableEq, Repr, Inhabited

namespace FieldValue

/-- The digits in front, and what follows them. -/
private def digits (cs : List Char) : List Char × List Char := cs.span Char.isDigit

private def unsign : List Char → Bool × List Char
  | '-' :: cs => (true, cs)
  | '+' :: cs => (false, cs)
  | cs => (false, cs)

/-- A number in decimal or scientific notation, or a name for what is no finite number. -/
def float? (cs : List Char) : Option Decimal.Binary := do
  let (negative, cs) := unsign cs
  let word := Text.lower (String.ofList cs)
  if word = "inf" || word = "infinity" then return .infinite negative
  if word = "nan" then return .nan
  let (whole, cs) := digits cs
  let (places, cs) := match cs with
    | '.' :: cs => digits cs
    | cs => ([], cs)
  guard !(whole.isEmpty && places.isEmpty)
  let power ← match cs with
    | [] => some (0 : Int)
    | e :: cs => do
      guard (e = 'e' || e = 'E')
      let (negative, cs) := unsign cs
      guard (!cs.isEmpty && cs.all Char.isDigit)
      let n : Int := (← LogLevel.natural? cs)
      some (if negative then -n else n)
  let value ← LogLevel.natural? (whole ++ places)
  return .ofDecimal .double negative value (power - places.length)

/-- Reads a value as the first thing that it can be. -/
def ofText (s : String) : FieldValue :=
  let cs := s.toList
  let number : Option FieldValue :=
    match LogLevel.natural? cs with
    | some n => if n < UInt64.size then some (natural n) else none
    | none => none
  let negative : Option FieldValue :=
    match cs with
    | '-' :: ds =>
      if ds.all Char.isDigit then
        (LogLevel.natural? ds).bind fun n =>
          if Int64.minValue.toInt ≤ -n then some (integer (-n)) else none
      else none
    | _ => none
  if s = "true" then boolean true
  else if s = "false" then boolean false
  else (number <|> negative <|> (float? cs).map float).getD (pattern s)

def text : FieldValue → String
  | boolean b => toString b
  | float x => x.text .double .plain
  | natural n => toString n
  | integer i => toString i
  | pattern s => s

/-- The place of a kind of value among the others; what is no number is a kind of its own. -/
private def rank : FieldValue → Nat
  | boolean _ => 0
  | float .nan => 2
  | float _ => 1
  | natural _ => 3
  | integer _ => 4
  | pattern _ => 5

/-- A finite number as a multiple of the least positive one, which bounds also order the infinities. -/
private def magnitude : Decimal.Binary → Int
  | .finite negative m e =>
    let n : Int := m * Nat.pow 2 (e - Decimal.Format.double.minExponent).toNat
    if negative then -n else n
  | .infinite negative => if negative then -(Nat.pow 2 3000 : Nat) else Nat.pow 2 3000
  | .nan => 0

protected def compare (a b : FieldValue) : Ordering :=
  match a, b with
  | boolean a, boolean b => compare a b
  | float .nan, float .nan => .eq
  | float a, float b =>
    (compare (rank (float a)) (rank (float b))).then (compare (magnitude a) (magnitude b))
  | natural a, natural b => compare a b
  | integer a, integer b => compare a b
  | pattern a, pattern b => compare a b
  | a, b => compare a.rank b.rank

end FieldValue

/-- Something that may be missing comes first without. -/
def compareOption {α : Type} (cmp : α → α → Ordering) : Option α → Option α → Ordering
  | none, none => .eq
  | none, some _ => .lt
  | some _, none => .gt
  | some a, some b => cmp a b

/-- The order of dictionaries. -/
def compareList {α : Type} (cmp : α → α → Ordering) : List α → List α → Ordering
  | [], [] => .eq
  | [], _ :: _ => .lt
  | _ :: _, [] => .gt
  | a :: as, b :: bs => (cmp a b).then (compareList cmp as bs)

namespace FieldTest

/-- A name, perhaps with an equals sign and a value; what follows a second equals sign does not count. -/
def ofText (s : String) : FieldTest :=
  match s.splitOn "=" with
  | name :: value :: _ => ⟨name, some (.ofText value)⟩
  | _ => ⟨s, none⟩

def text (t : FieldTest) : String :=
  match t.value with
  | some v => t.name ++ "=" ++ v.text
  | none => t.name

protected def compare (a b : FieldTest) : Ordering :=
  (compare a.value.isSome b.value.isSome).then
    ((compare a.name b.name).then (compareOption FieldValue.compare a.value b.value))

end FieldTest

namespace LogDirective

/-- How far a directive has been read; a place is the number of characters before it. -/
private inductive State where
  | start
  | name (start : Nat)
  | span (start : Nat)
  | field (start : Nat)
  | fields
  | target
  | level (start : Nat)

/-- The characters of `cs` between two places. -/
private def slice (cs : List Char) (start stop : Nat) : String :=
  String.ofList ((cs.take stop).drop start)

private def levelOf? (s : String) : Option LogLevel :=
  if s.isEmpty then some .trace else LogLevel.ofText? s

/-- Reads the character `c` at the place `i` of `cs`. -/
private def read (cs : List Char) (d : LogDirective) (state : State) (i : Nat) (c : Char) :
    Option (LogDirective × State) := do
  match state with
  | .start =>
    if c = '[' then return (d, .span (i + 1))
    guard (c = '-' || c = ':' || c = '_' || Text.alphanumeric.has c)
    return (d, .name i)
  | .name start =>
    if c = '=' then return ({ d with target := slice cs start i }, .level (i + 1))
    if c = '[' then return ({ d with target := slice cs start i }, .span (i + 1))
    return (d, state)
  | .span start =>
    let s := slice cs start i
    if c = ']' then return ({ d with span := s }, .target)
    if c = '\x7b' then return ({ d with span := if s.isEmpty then none else s }, .field (i + 1))
    return (d, state)
  | .field start =>
    if c = '\x7d' then
      let s := slice cs start i
      guard !s.isEmpty
      return ({ d with fields := d.fields ++ [.ofText s] }, .fields)
    return (d, state)
  | .fields =>
    guard (c = ']')
    return (d, .target)
  | .target =>
    guard (c = '=')
    return (d, .level (i + 1))
  | .level _ => return (d, state)

private def finish (cs : List Char) (d : LogDirective) : State → Option LogDirective
  | .name start =>
    let s := String.ofList (cs.drop start)
    match levelOf? s with
    | some level => some { d with level, target := none }
    | none => some { d with target := s }
  | .level start => do
    let level ← levelOf? (String.ofList (cs.drop start))
    return { d with level }
  | .target => some d
  | _ => none

/-- Reads a directive.  Blank space around it is passed over, but the places of its parts are counted as if
it were not there. -/
def ofText? (s : String) : Option LogDirective := do
  let cs := s.toList
  let empty : LogDirective := ⟨none, none, [], .trace⟩
  let (d, state) ← (Text.trimChars cs).zipIdx.foldlM
    (fun (d, state) (c, i) => read cs d state i c) (empty, State.start)
  finish cs d state

/-- Whether it concerns spans of work. -/
def isDynamic (d : LogDirective) : Bool := d.span.isSome || !d.fields.isEmpty

/-- What it says of messages outside of any span, if anything. -/
def toStatic? (d : LogDirective) : Option LogDirective :=
  if d.span.isSome || d.fields.any (·.value.isSome) then none
  else some { d with fields := d.fields.map fun t => ⟨t.name, none⟩ }

def text (d : LogDirective) : String :=
  let fields :=
    if d.fields.isEmpty then "" else "\x7b" ++ ",".intercalate (d.fields.map (·.text)) ++ "\x7d"
  let span := if d.isDynamic then "[" ++ d.span.getD "" ++ fields ++ "]" else ""
  let concern := d.target.getD "" ++ span
  if d.target.isSome || d.isDynamic then concern ++ "=" ++ d.level.text else d.level.text

/-- The more specific of two directives comes first. -/
protected def compare (a b : LogDirective) : Ordering :=
  ((compareOption compare (a.target.map String.utf8ByteSize) (b.target.map String.utf8ByteSize)).then <|
    (compare a.span.isSome b.span.isSome).then <|
    (compare a.fields.length b.fields.length).then <|
    (compareOption compare a.target b.target).then <|
    (compareOption compare a.span b.span).then <|
    compareList FieldTest.compare a.fields b.fields).swap

/-- Takes a directive into a list from the most to the least specific, in the place of one for the same
concern. -/
def insert (d : LogDirective) : List LogDirective → List LogDirective
  | [] => [d]
  | e :: es =>
    match d.compare e with
    | .lt => d :: e :: es
    | .eq => d :: es
    | .gt => e :: insert d es

end LogDirective

/-! ### Filters -/

/-- Directives for messages, and directives for spans of work, each from the most specific on. -/
structure LogFilter where
  messages : List LogDirective
  spans : List LogDirective
  deriving DecidableEq, Repr, Inhabited

namespace LogFilter

/-- Sorts directives into a filter. -/
def ofDirectives (ds : List LogDirective) : LogFilter :=
  let (dynamic, static) := ds.partition (·.isDynamic)
  let sort (ds : List LogDirective) : List LogDirective := ds.foldl (fun acc d => d.insert acc) []
  { messages := sort (static.filterMap (·.toStatic?) ++ dynamic.filterMap (·.toStatic?))
    spans := sort dynamic }

/-- Reads directives with commas between them. -/
def ofText? (s : String) : Option LogFilter :=
  (((s.splitOn ",").filter (!·.isEmpty)).mapM LogDirective.ofText?).map ofDirectives

def text (f : LogFilter) : String := ",".intercalate ((f.messages ++ f.spans).map (·.text))

end LogFilter

namespace LogSettings

/-- The level in its usual spelling; anything that is no level is left as it is. -/
def normalLevel (level : String) : String :=
  let s := Text.trim level
  let word := Text.lower s
  if s.isEmpty then "info"
  else if word = "warning" then "warn"
  else if word = "none" then "off"
  else if (LogLevel.all.any (·.text == word)) then word
  else s

/-- The filter for everything at level `info`. -/
def usualFilter : LogFilter := .ofDirectives [⟨none, none, [], .info⟩]

/-- The filter that the settings alone ask for. -/
def ownFilter (l : LogSettings) : LogFilter :=
  (LogFilter.ofText? (normalLevel l.level)).getD usualFilter

/-- The filter that the settings ask for, with the directives of the environment on top. -/
def filter (l : LogSettings) (environment : Option String) : LogFilter :=
  let directives := Text.trim (environment.getD "")
  if directives.isEmpty then l.ownFilter
  else
    (LogFilter.ofText? (normalLevel l.level ++ "," ++ directives) <|>
      LogFilter.ofText? directives).getD l.ownFilter

end LogSettings

end Debugger
