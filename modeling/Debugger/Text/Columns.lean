/-! # Columns

Texts filled up with spaces; a text that is wider already stays as it is.
-/

namespace Debugger.Text

private def spaces (n : Nat) : String := String.ofList (List.replicate n ' ')

/-- The text with spaces in front of it up to a width. -/
def padLeft (width : Nat) (s : String) : String := spaces (width - s.length) ++ s

/-- The text with spaces behind it up to a width. -/
def padRight (width : Nat) (s : String) : String := s ++ spaces (width - s.length)

end Debugger.Text
