import Debugger.Toml.Document

/-! # Reading a text

A grammar takes what it describes off the front of a text, or fails and takes nothing.
-/

namespace Debugger.Toml

/-- A place in a text: how many bytes are before it, and what is still to be read. -/
structure Cursor where
  offset : Nat
  rest : List Char
  deriving Repr, Inhabited

/-- Takes something off the front of a text. -/
abbrev Grammar (α : Type) := StateT Cursor Option α

namespace Grammar

variable {α β : Type}

/-- A character for which the test holds. -/
def satisfy (p : Char → Bool) : Grammar Char := fun c =>
  match c.rest with
  | a :: rest => if p a then some (a, ⟨c.offset + a.utf8Size, rest⟩) else none
  | [] => none

def char (a : Char) : Grammar Unit := do let _ ← satisfy (· == a)

/-- A given text. -/
def word : List Char → Grammar Unit
  | [] => pure ()
  | a :: as => do
    char a
    word as

/-- All characters up to the first for which the test fails. -/
def takeWhile (p : Char → Bool) : Grammar (List Char) := fun c =>
  let (taken, rest) := c.rest.span p
  some (taken, ⟨c.offset + taken.foldl (fun n a => n + a.utf8Size) 0, rest⟩)

/-- The same, at least one. -/
def takeWhile1 (p : Char → Bool) : Grammar (List Char) := do
  let taken ← takeWhile p
  guard !taken.isEmpty
  return taken

/-- The next character, which stays. -/
def peek? : Grammar (Option Char) := fun c => some (c.rest.head?, c)

/-- The end of the text. -/
def done : Grammar Unit := do guard (← peek?).isNone

/-- As many as there are, at most `n`. -/
def manyUpTo (p : Grammar α) : Nat → Grammar (List α)
  | 0 => pure []
  | n + 1 => (do return (← p) :: (← manyUpTo p n)) <|> pure []

/-- As many as there are, of something that takes at least one character. -/
def many (p : Grammar α) : Grammar (List α) := fun c => manyUpTo p c.rest.length c

/-- At least one. -/
def many1 (p : Grammar α) : Grammar (List α) := do return (← p) :: (← many p)

/-- At least one, with a separator before every further one. -/
def separated (p : Grammar α) (separator : Grammar β) : Grammar (List α) := do
  return (← p) :: (← many (separator *> p))

/-- What is read together with its place. -/
def spanned (p : Grammar α) : Grammar (α × Span) := do
  let start := (← get).offset
  let a ← p
  return (a, ⟨start, (← get).offset⟩)

end Grammar

end Debugger.Toml
