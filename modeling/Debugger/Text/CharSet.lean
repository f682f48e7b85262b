/-! # Sets of characters

Large sets of characters, given by the ranges of their code points.
-/

namespace Debugger.Text

/-- A set of characters as ranges of code points, ends included. -/
abbrev CharSet := List (Nat × Nat)

/-- Whether the character is in the set. -/
def CharSet.has (s : CharSet) (c : Char) : Bool := s.any fun r => r.1 ≤ c.toNat && c.toNat ≤ r.2

theorem CharSet.has_iff (s : CharSet) (c : Char) :
    s.has c = true ↔ ∃ r ∈ s, r.1 ≤ c.toNat ∧ c.toNat ≤ r.2 := by
  simp [has]

end Debugger.Text
