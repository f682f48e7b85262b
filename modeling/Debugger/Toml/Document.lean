import Debugger.Decimal.Binary

/-! # TOML documents

The tree of a document, each part with its place in the text.
-/

namespace Debugger.Toml

/-- A stretch of a text, in bytes. -/
structure Span where
  start : Nat
  stop : Nat
  deriving DecidableEq, Repr, Inhabited

/-- A key, with the place where it is written. -/
structure Key where
  text : String
  span : Span
  deriving DecidableEq, Repr, Inhabited

/-- What a table owes its existence to. -/
inductive Origin where
  /-- A header of its own. -/
  | header
  /-- The header of a table inside it. -/
  | inner
  /-- A dotted key. -/
  | dotted
  /-- Braces. -/
  | inline
  deriving DecidableEq, Repr, Inhabited

/-- A value or a table. -/
inductive Item where
  | text (span : Span) (s : String)
  | integer (span : Span) (i : Int)
  | float (span : Span) (x : Decimal.Binary)
  | boolean (span : Span) (b : Bool)
  | dateTime (span : Span)
  | array (span : Span) (items : List Item)
  /-- A table; one that is nowhere written as a whole has no place. -/
  | table (span : Option Span) (origin : Origin) (entries : List (Key × Item))
  /-- An array of tables, each of which has a header. -/
  | tables (items : List Item)
  deriving Repr, Inhabited

/-- The entries of a table, in the order in which they were made. -/
abbrev Entries := List (Key × Item)

namespace Item

private def ownSpan : Item → Option Span
  | text s _ | integer s _ | float s _ | boolean s _ | dateTime s | array s _ => some s
  | table s _ _ => s
  | tables _ => none

/-- Where the item is written; an array of tables reaches from its first table to its last. -/
def span : Item → Option Span
  | tables items => do
    let first ← (← items.head?).ownSpan
    let last ← (← items.getLast?).ownSpan
    return ⟨first.start, last.stop⟩
  | i => i.ownSpan

end Item

namespace Entries

def find? (es : Entries) (key : String) : Option Item :=
  (List.find? (·.1.text == key) es).map (·.2)

def erase (es : Entries) (key : String) : Entries := List.filter (·.1.text != key) es

/-- Changes the item of a key that is there. -/
def replace (es : Entries) (key : String) (i : Item) : Entries :=
  List.map (fun e => if e.1.text == key then (e.1, i) else e) es

/-- Acts on the table that a path of keys leads to, making the tables that are missing.  A path leads
through the last of an array of tables.  Dotted keys go into no table that has a header, and nothing goes
into a table in braces that is complete. -/
def within {α : Type} (dotted : Bool) :
    List Key → (Origin → Entries → Option (Entries × α)) → Origin → Entries → Option (Entries × α)
  | [], f, origin, es => f origin es
  | k :: path, f, _, es =>
    match es.find? k.text with
    | none => do
      let origin := if dotted then Origin.dotted else .inner
      let (inside, a) ← within dotted path f origin []
      return (es ++ [(k, .table none origin inside)], a)
    | some (.table span origin inside) => do
      guard (origin ≠ .inline && !(dotted && origin == .header))
      let (inside, a) ← within dotted path f origin inside
      return (es.replace k.text (.table span origin inside), a)
    | some (.tables items) =>
      match items.getLast? with
      | some (.table span origin inside) => do
        let (inside, a) ← within dotted path f origin inside
        return (es.replace k.text (.tables (items.dropLast ++ [.table span origin inside])), a)
      | _ => none
    | some _ => none

/-- Gives a dotted key its value; no key is given one twice, and dotted keys add to no table but those
that dotted keys made. -/
def insert (es : Entries) (path : List Key) (key : Key) (value : Item) : Option Entries :=
  let add (origin : Origin) (es : Entries) : Option (Entries × Unit) := do
    guard ((origin == .dotted) == !path.isEmpty)
    guard (es.find? key.text).isNone
    return (es ++ [(key, value)], ())
  -- what the entries belong to is no table that a dotted key made
  (within true path add .header es).map (·.1)

end Entries

/-! ### Building a document -/

/-- A document under construction: the tables that are complete, and the one that lines add to. -/
structure Draft where
  root : Entries := []
  /-- The header of the table that lines add to; empty before the first header. -/
  path : List Key := []
  span : Span := ⟨0, 0⟩
  isElement : Bool := false
  current : Entries := []
  deriving Inhabited

namespace Draft

/-- Puts the table that lines added to in its place. -/
def finish (d : Draft) : Option Entries :=
  match d.path.getLast? with
  | none => some d.current
  | some key =>
    let table := Item.table (some d.span) .header d.current
    let put (_ : Origin) (es : Entries) : Option (Entries × Unit) :=
      match es.find? key.text with
      | none => some (es ++ [(key, if d.isElement then .tables [table] else table)], ())
      | some (.tables items) =>
        if d.isElement then some (es.replace key.text (.tables (items ++ [table])), ()) else none
      | some _ => none
    (Entries.within false d.path.dropLast put .header d.root).map (·.1)

/-- A header begins a table, or goes on with one that only headers of inner tables have made. -/
def begin (d : Draft) (path : List Key) (span : Span) : Option Draft := do
  let key ← path.getLast?
  let take (_ : Origin) (es : Entries) : Option (Entries × Entries) :=
    match es.find? key.text with
    | none => some (es, [])
    | some (.table _ .inner inside) => some (es.erase key.text, inside)
    | some _ => none
  let (root, current) ← Entries.within false path.dropLast take .header (← d.finish)
  return { root, path, span, isElement := false, current }

/-- A double header begins another element of an array of tables. -/
def beginElement (d : Draft) (path : List Key) (span : Span) : Option Draft := do
  let key ← path.getLast?
  let prepare (_ : Origin) (es : Entries) : Option (Entries × Unit) :=
    match es.find? key.text with
    | none => some (es ++ [(key, .tables [])], ())
    | some (.tables _) => some (es, ())
    | some _ => none
  let (root, _) ← Entries.within false path.dropLast prepare .header (← d.finish)
  return { root, path, span, isElement := true, current := [] }

/-- A line gives a key its value; the table reaches until there. -/
def insert (d : Draft) (path : List Key) (key : Key) (value : Item) : Option Draft := do
  let current ← d.current.insert path key value
  return { d with current, span := ⟨d.span.start, (value.span.getD d.span).stop⟩ }

end Draft

end Debugger.Toml
