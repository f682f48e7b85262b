/-! # Documents

A structured text: what a report of the debugger consists of, whatever notation it is written in.
-/

namespace Debugger

/-- A structured text. -/
inductive Doc where
  | null
  | bool (b : Bool)
  | int (i : Int)
  | text (s : String)
  | list (ds : List Doc)
  | record (fields : List (String × Doc))
  deriving Repr, Inhabited

/-- Things that have a place in a report. -/
class Reported (α : Type) where
  doc : α → Doc

export Reported (doc)

namespace Doc

instance : Reported Doc := ⟨id⟩
instance : Reported Bool := ⟨bool⟩
instance : Reported String := ⟨text⟩
instance : Reported Int := ⟨int⟩
instance : Reported Nat := ⟨fun n => int n⟩
instance : Reported Unit := ⟨fun _ => null⟩
instance : Reported UInt8 := ⟨fun n => int n.toNat⟩
instance : Reported UInt16 := ⟨fun n => int n.toNat⟩
instance : Reported UInt32 := ⟨fun n => int n.toNat⟩
instance : Reported UInt64 := ⟨fun n => int n.toNat⟩
instance : Reported Int8 := ⟨fun n => int n.toInt⟩
instance : Reported Int16 := ⟨fun n => int n.toInt⟩
instance : Reported Int32 := ⟨fun n => int n.toInt⟩
instance : Reported Int64 := ⟨fun n => int n.toInt⟩

variable {α β : Type} [Reported α] [Reported β]

instance : Reported (Option α) := ⟨fun o => o.elim null doc⟩
instance : Reported (List α) := ⟨fun l => list (l.map doc)⟩
instance : Reported (α × β) := ⟨fun p => list [doc p.1, doc p.2]⟩

/-- A field that is there only if there is something to say. -/
def fieldUnlessEmpty (name : String) (l : List α) : List (String × Doc) :=
  if l.isEmpty then [] else [(name, doc l)]

end Doc

/-- Enumerated things that have a written name each. -/
class Named (α : Type) where
  names : List (String × α)

namespace Named

variable {α : Type} [Named α]

/-- The written name. -/
def nameOf [DecidableEq α] (a : α) : String :=
  (((names : List (String × α)).find? (·.2 = a)).map (·.1)).getD ""

/-- The thing of that name. -/
def ofName? (s : String) : Option α := (names : List (String × α)).lookup s

end Named

end Debugger
