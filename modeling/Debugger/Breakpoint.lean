import Debugger.Request

/-! # Breakpoints

A breakpoint stops the thread that hits it unless a listener objects.
-/

namespace Debugger

/-- Names a breakpoint that was once installed. -/
abbrev BreakpointRef := Nat

/-- A line breakpoint. -/
structure Breakpoint where
  request : RequestId
  typeName : String
  line : Int32
  policy : SuspendPolicy
  hits : Nat
  deriving DecidableEq, Repr, Inhabited

/-- A listener's opinion on whether a thread stops. -/
inductive Vote where
  | suspend
  | dontSuspend
  | dontCare
  deriving DecidableEq, Repr, Inhabited

/-- The thread suspends unless someone objects. -/
def Vote.carries (votes : List Vote) : Bool := votes.all (· ≠ .dontSuspend)

/-- A call of a listener: which one, and on what hit. -/
structure Ballot where
  listener : String
  thread : ThreadId
  request : RequestId
  deriving DecidableEq, Repr, Inhabited

/-- A breakpoint listener.  Its opinion on a hit may depend on every ballot before, so two hits of one
breakpoint need not be judged alike. -/
structure Listener where
  name : String
  opinion : List Ballot → ThreadId → Breakpoint → Vote
  deriving Inhabited

/-- A listener that always votes the same. -/
def Listener.fixed (name : String) (vote : Vote) : Listener := ⟨name, fun _ _ _ => vote⟩

end Debugger
