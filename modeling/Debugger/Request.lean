import Debugger.Code

/-! # Requests

What a debugger asks the machine to watch for or to run.
-/

namespace Debugger

/-- How far a step runs before it is reported. -/
inductive StepDepth where
  | into
  | over
  | out
  /-- Enter the current frame again from its start, the last leg of a simulated frame drop. -/
  | reenter
  deriving DecidableEq, Repr, Inhabited

/-- What stops when an event is reported. -/
inductive SuspendPolicy where
  | thread
  | vm
  deriving DecidableEq, Repr, Inhabited

/-- A request for a step to another line. -/
structure StepRequest where
  thread : ThreadId
  depth : StepDepth
  /-- Report only the n-th event. -/
  count : Option UInt32
  /-- Class patterns to pass through without a report. -/
  exclusions : List String
  policy : SuspendPolicy
  deriving DecidableEq, Repr, Inhabited

/-- A request to stop at a line of a type. -/
structure BreakpointRequest where
  typeName : String
  line : Int32
  policy : SuspendPolicy
  deriving DecidableEq, Repr, Inhabited

/-- The kinds of event request a debugger makes. -/
inductive RequestKind where
  | step
  | breakpoint
  deriving DecidableEq, Repr, Inhabited

/-- What a method is invoked on: a class for static dispatch, or an object. -/
inductive Receiver where
  | type (type : TypeId)
  | object (object : ObjectId) (type : TypeId)
  deriving DecidableEq, Repr, Inhabited

/-- How an invocation runs. -/
structure InvokeOptions where
  singleThreaded : Bool
  /-- Run exactly the named method and no override of it. -/
  nonvirtual : Bool
  deriving DecidableEq, Repr, Inhabited

/-- What an invocation runs on: an existing receiver, or a type to make an instance of. -/
inductive InvokeTarget where
  | on (receiver : Receiver)
  | new (type : TypeId)
  deriving DecidableEq, Repr, Inhabited

/-- An invocation of a method or constructor in a suspended thread. -/
structure Invocation where
  thread : ThreadId
  target : InvokeTarget
  method : MethodRef
  args : List Value
  options : InvokeOptions
  deriving DecidableEq, Repr, Inhabited

end Debugger
