import Debugger.Request

/-! # Events of the machine

The machine reports events in sets: it suspended once for the whole set, so a set is resumed at
most once, after every event in it has been handled.
-/

namespace Debugger

/-- Something that happened in the debugged machine, or to the connection with it. -/
inductive VmEvent where
  | step (request : RequestId) (thread : ThreadId) (location : Location)
  | breakpoint (request : RequestId) (thread : ThreadId) (location : Location)
  | threadStart (thread : ThreadId)
  | threadDeath (thread : ThreadId)
  | vmDeath
  | disconnected
  deriving DecidableEq, Repr, Inhabited

namespace VmEvent

/-- The thread the event happened in. -/
def thread? : VmEvent → Option ThreadId
  | step _ thread _ | breakpoint _ thread _ | threadStart thread | threadDeath thread => some thread
  | vmDeath | disconnected => none

/-- Whether the connection is over after the event. -/
def isFinal : VmEvent → Bool
  | vmDeath | disconnected => true
  | _ => false

/-- What the machine suspends for the event when it reports it alone. -/
def policy : VmEvent → Option SuspendPolicy
  | step .. | breakpoint .. => some .thread
  | _ => none

end VmEvent

/-- Events that the machine reported together. -/
structure EventSet where
  /-- What is suspended until the set is resumed. -/
  policy : Option SuspendPolicy
  events : List VmEvent
  deriving DecidableEq, Repr, Inhabited

namespace EventSet

/-- The thread that is suspended for a set of policy `thread`. -/
def thread? (s : EventSet) : Option ThreadId := s.events.findSome? VmEvent.thread?

/-- Whether the connection is over after the set. -/
def isFinal (s : EventSet) : Bool := s.events.any VmEvent.isFinal

/-- The set of a lone event. -/
def single (e : VmEvent) : EventSet := ⟨e.policy, [e]⟩

end EventSet

end Debugger
