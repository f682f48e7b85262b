import Debugger.Scenario.Call
import Debugger.Machine.State
import Debugger.Session.Faulty
import Debugger.System

/-! # Commands

A scenario drives a system by commands: operations of the client on threads and on the target, the
passing of time, and what happens on the machine's side.  Commands name frames by the order in which
they were first shown, and background tasks by labels.
-/

namespace Debugger.Scenario

/-- A frame by the order in which it was first shown. -/
abbrev Shown := Nat

/-- An operation on a thread. -/
inductive ThreadCommand where
  | name
  | priority
  | groupName
  | frames
  | newFrames
  | topFrame
  | hasFrames
  | frameCount
  | findVariable (name : String)
  | ownedMonitors
  | hasOwnedMonitors
  | contendedMonitor
  | isOutOfSync
  | canStep
  | canStepWithFilters
  | canDropToFrame (w : Shown)
  | describe
  | resume
  | resumeQuietly
  | terminate
  | stepInto
  | stepOver
  | stepReturn
  | stepWithFilters
  | stepToFrame (w : Shown)
  | dropToFrame (w : Shown)
  | step (kind : StepKind) (filters : StepFilters)
  | suspend (label : String)
  | atBreakpoint (request : RequestId) (queued : Bool)
  | atBreakpointQuietly (request : RequestId)
  | invoke (label : String) (target : InvokeTarget) (method : MethodRef) (args : List Value)
      (nonvirtual : Bool)
  | evaluate (label : String) (detail : EventDetail) (honors : Bool) (body : EvaluationBody)
  | terminateEvaluation
  | publish (kind : DebugEventKind) (detail : EventDetail) (queued : Bool)
  deriving Inhabited

/-- A breakpoint listener with one vote for every hit. -/
structure Voter where
  name : String
  vote : Vote
  deriving DecidableEq, Repr, Inhabited

/-- An operation on the target. -/
inductive TargetCommand where
  | suspend
  | resume
  | terminate
  | canTerminate
  | canPopFrames
  | threads
  | disconnected
  | shutdown
  | drop
  | filters
  | setFilters (filters : StepFilters)
  | install (typeName : String) (line : Int32) (policy : SuspendPolicy)
  | remove (request : RequestId)
  | breakpoints
  | addListener (voter : Voter)
  | removeListener (name : String)
  | setReplacing (on : Bool)
  | recordReplaceFailure (types : List String)
  | hasReplaceFailed
  | typeOutOfSync (typeName : String)
  | frameOutOfSync (w : Shown)
  | publish (kind : DebugEventKind) (detail : EventDetail) (queued : Bool)
  deriving Inhabited

/-- A command; `μ` is what can be done on the machine's side. -/
inductive Command (μ : Type) where
  | thread (id : ThreadId) (c : ThreadCommand)
  | target (c : TargetCommand)
  | machine (c : μ)
  | advance (ms : Nat)
  | shownFrames
  | frameOutOfSync (w : Shown) (types : List String)
  | outcome (label : String)
  | cancel (label : String)
  | join (label : String)
  | finish (label : String)
  | abort (label : String)
  deriving Inhabited

/-- What can be done to a machine in memory. -/
inductive MachineCommand where
  | addTask (t : Machine.Task)
  | addGroup (id : GroupId) (g : Machine.Group)
  | setFrames (t : ThreadId) (frames : List RemoteFrame)
  | frames (t : ThreadId)
  | isSuspended (t : ThreadId)
  | landing (t : ThreadId) (frames : List RemoteFrame)
  | invokeResult (r : Except SessionError Value)
  | gate
  | release
  | setVariable (f : FrameId) (v : Variable)
  | setOwnedMonitors (t : ThreadId) (objects : List ObjectId)
  | setCanPop (on : Bool)
  | hideGroups (on : Bool)
  | ignoreSuspend (t : ThreadId)
  | defer (t : ThreadId)
  | complete (t : ThreadId)
  | completeAt (t : ThreadId) (request : RequestId) (stepFirst : Bool)
  | failResume (e : SessionError)
  | hit (t : ThreadId) (request : RequestId)
  | emit (sets : List EventSet)
  | stepRequests
  | call (c : SessionCall)
  | fault (kind : CallKind) (entries : List (Option SessionError))
  deriving Inhabited

end Debugger.Scenario
