import Debugger.Id

/-! # Debug events

What the debugger tells its own observers: one of its elements was created, resumed, suspended,
terminated or changed, and why.
-/

namespace Debugger

/-- The element an event is about. -/
inductive Element where
  | target
  | thread (id : ThreadId)
  deriving DecidableEq, Repr, Inhabited

/-- What happened to an element. -/
inductive DebugEventKind where
  | create
  | resume
  | suspend
  | terminate
  | change
  deriving DecidableEq, Repr, Inhabited

/-- Why it happened. -/
inductive EventDetail where
  | unspecified
  | clientRequest
  | stepInto
  | stepOver
  | stepReturn
  | stepEnd
  | breakpoint
  /-- An evaluation the user did not ask for, such as computing a text for display. -/
  | evaluationImplicit
  | evaluation
  | content
  deriving DecidableEq, Repr, Inhabited

/-- A message to the observers of the debugger. -/
structure DebugEvent where
  source : Element
  kind : DebugEventKind
  detail : EventDetail
  deriving DecidableEq, Repr, Inhabited

end Debugger
