import Debugger.Text.Quoted
import Debugger.Toml.Parse

/-! # Reading typed values

What a document says is read into values of given types.  The first thing that does not fit ends the
reading, and its place is known.
-/

namespace Debugger.Toml

/-- What an item is, as far as a reader cares. -/
inductive Found where
  | text (s : String)
  | integer (i : Int)
  | float (x : Decimal.Binary)
  | boolean (b : Bool)
  | sequence
  | map
  deriving DecidableEq, Repr, Inhabited

def Found.describe : Found → String
  | text s => "string " ++ Text.quoted s
  | integer i => "integer `" ++ toString i ++ "`"
  | float x => "floating point `" ++ x.text .double .withPoint ++ "`"
  | boolean b => "boolean `" ++ toString b ++ "`"
  | sequence => "sequence"
  | map => "map"

/-- A date or a time counts as a map with a key of its own. -/
def Item.found : Item → Found
  | .text _ s => .text s
  | .integer _ i => .integer i
  | .float _ x => .float x
  | .boolean _ b => .boolean b
  | .dateTime _ => .map
  | .array .. | .tables _ => .sequence
  | .table .. => .map

/-- The key of a date or a time. -/
def dateTimeKey : String := "$__toml_private_datetime"

/-- Why something does not fit. -/
inductive Misfit where
  /-- A section has no such field, but the `known` ones. -/
  | unknownField (name : String) (known : List String)
  | wrongType (found : Found) (expected : String)
  /-- A number of the right type, but too small or too large. -/
  | outOfRange (i : Int) (expected : String)
  deriving DecidableEq, Repr, Inhabited

def Misfit.message : Misfit → String
  | unknownField name known =>
    let quote (s : String) : String := "`" ++ s ++ "`"
    "unknown field " ++ quote name ++ ", " ++
      (match known with
      | [] => "there are no fields"
      | [a] => "expected " ++ quote a
      | [a, b] => "expected " ++ quote a ++ " or " ++ quote b
      | known => "expected one of " ++ ", ".intercalate (known.map quote))
  | wrongType found expected => "invalid type: " ++ found.describe ++ ", expected " ++ expected
  | outOfRange i expected =>
    "invalid value: " ++ (Found.integer i).describe ++ ", expected " ++ expected

/-- A misfit and its place, if it has one of its own. -/
structure ReadError where
  misfit : Misfit
  span : Option Span
  deriving DecidableEq, Repr, Inhabited

/-- Reads an item as a value of a type. -/
abbrev Reading (α : Type) := Item → Except ReadError α

namespace Reading

variable {α σ : Type}

private def mismatch (expected : String) (i : Item) : ReadError :=
  ⟨.wrongType i.found expected, i.span⟩

def text (expected : String := "a string") : Reading String
  | .text _ s => .ok s
  | i => .error (mismatch expected i)

def boolean : Reading Bool
  | .boolean _ b => .ok b
  | i => .error (mismatch "a boolean" i)

/-- A whole number from zero up to `high`. -/
def natural (expected : String) (high : Nat) : Reading Nat
  | .integer span i =>
    if 0 ≤ i ∧ i ≤ high then .ok i.toNat else .error ⟨.outOfRange i expected, some span⟩
  | i => .error (mismatch expected i)

def list (read : Reading α) : Reading (List α)
  | .array _ items | .tables items => items.mapM read
  | i => .error (mismatch "a sequence" i)

/-- A field of a section whose settings have type `σ`: its name, and how its item changes them. -/
structure FieldReading (σ : Type) where
  name : String
  set : Item → σ → Except ReadError σ

/-- A field that is read with `read` and stored with `put`. -/
def field (name : String) (read : Reading α) (put : α → σ → σ) : FieldReading σ :=
  ⟨name, fun i s => do return put (← read i) s⟩

/-- A section: a table with the given fields, or their values in order; what is left out keeps its
default.  An item that has no place is put where its key is. -/
def struct (expected : String) (fields : List (FieldReading σ)) (default : σ) : Reading σ
  | .table _ _ entries =>
    entries.foldlM (fun s (key, item) =>
      match fields.find? (·.name == key.text) with
      | none => .error ⟨.unknownField key.text (fields.map (·.name)), some key.span⟩
      | some f =>
        match f.set item s with
        | .ok s => .ok s
        | .error e => .error { e with span := e.span <|> item.span <|> some key.span }) default
  | .array _ items | .tables items =>
    (fields.zip items).foldlM (fun s (f, item) => f.set item s) default
  | .dateTime span => .error ⟨.unknownField dateTimeKey (fields.map (·.name)), some span⟩
  | i => .error (mismatch expected i)

end Reading

end Debugger.Toml
