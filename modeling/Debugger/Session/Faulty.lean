import Debugger.Session
import Debugger.Table

/-! # Sessions that fail on schedule

A session around another one.  Each kind of call has a schedule of its own: an entry lets the call
through or makes it fail before it reaches the inner session, and after the last entry every call goes
through.  A session that is bare leaves out the calls that not every machine offers.
-/

namespace Debugger

/-- The kinds of call that have a schedule. -/
inductive CallKind where
  | allThreads
  | threadName
  | suspendThread
  | resumeThread
  | threadIsSuspended
  | frames
  | frameCount
  | threadGroup
  | groupName
  | groupParent
  | threadPriority
  | ownedMonitors
  | contendedMonitor
  | createStepRequest
  | createBreakpointRequest
  | deleteEventRequest
  | invokeMethod
  | newInstance
  | popFrames
  | forceReturn
  | frameVariable
  | suspendVm
  | resumeVm
  | exitVm
  deriving DecidableEq, Repr, Inhabited

/-- A session whose calls fail on schedule. -/
structure Faulty (σ : Type) where
  inner : σ
  bare : Bool := false
  schedule : Table CallKind (List (Option SessionError)) := .empty
  /-- The calls that failed, oldest first. -/
  failures : List (CallKind × SessionError) := []

namespace Faulty

variable {σ α : Type}

/-- Adds entries to the schedule of a kind of call. -/
def addFaults (s : Faulty σ) (kind : CallKind) (es : List (Option SessionError)) : Faulty σ :=
  { s with schedule := s.schedule.put kind ((s.schedule.find? kind).getD [] ++ es) }

/-- Makes a call to the inner session. -/
def inside (call : Call σ α) : Call (Faulty σ) α := fun s =>
  match call s.inner with
  | .ok a inner => .ok a { s with inner }
  | .error e inner => .error e { s with inner }

/-- Uses up the next entry of the schedule. -/
def fault (kind : CallKind) : Call (Faulty σ) Unit := fun s =>
  match (s.schedule.find? kind).getD [] with
  | [] => .ok () s
  | none :: es => .ok () { s with schedule := s.schedule.put kind es }
  | some e :: es => .error e { s with schedule := s.schedule.put kind es }

/-- Makes a call, and keeps a record of its failure. -/
def noted (kind : CallKind) (call : Call (Faulty σ) α) : Call (Faulty σ) α := fun s =>
  match call s with
  | .ok a s => .ok a s
  | .error e s => .error e { s with failures := s.failures ++ [(kind, e)] }

/-- A call that is on schedule. -/
def guarded (kind : CallKind) (call : Call σ α) : Call (Faulty σ) α := noted kind do
  fault kind
  inside call

/-- A call that a bare session leaves out. -/
def optional (kind : CallKind) (call : Call σ α) : Call (Faulty σ) α := do
  if (← get).bare then noted kind (throw .unsupported)
  else guarded kind call

/-- The kind of an invocation. -/
def invocationKind (call : Invocation) : CallKind :=
  match call.target with
  | .on _ => .invokeMethod
  | .new _ => .newInstance

instance [Session σ] : Session (Faulty σ) where
  allThreads := guarded .allThreads Session.allThreads
  threadName t := guarded .threadName (Session.threadName t)
  suspendThread t := guarded .suspendThread (Session.suspendThread t)
  resumeThread t := guarded .resumeThread (Session.resumeThread t)
  threadIsSuspended t := guarded .threadIsSuspended (Session.threadIsSuspended t)
  frames t := guarded .frames (Session.frames t)
  frameCount t := guarded .frameCount (Session.frameCount t)
  threadGroup t := guarded .threadGroup (Session.threadGroup t)
  groupName g := guarded .groupName (Session.groupName g)
  groupParent g := guarded .groupParent (Session.groupParent g)
  threadPriority t := guarded .threadPriority (Session.threadPriority t)
  ownedMonitors t := optional .ownedMonitors (Session.ownedMonitors t)
  contendedMonitor t := optional .contendedMonitor (Session.contendedMonitor t)
  createStepRequest r := guarded .createStepRequest (Session.createStepRequest r)
  createBreakpointRequest r := guarded .createBreakpointRequest (Session.createBreakpointRequest r)
  deleteEventRequest k r := guarded .deleteEventRequest (Session.deleteEventRequest k r)
  accept call := guarded (invocationKind call) (Session.accept call)
  invoke call := noted (invocationKind call) (inside (Session.invoke call))
  canPopFrames s := !s.bare && Session.canPopFrames s.inner
  popFrames t f := optional .popFrames (Session.popFrames t f)
  forceReturn t := optional .forceReturn (Session.forceReturn t)
  frameVariable t f n := guarded .frameVariable (Session.frameVariable t f n)
  requestTimeout s := Session.requestTimeout s.inner
  setRequestTimeout t s := { s with inner := Session.setRequestTimeout t s.inner }
  suspendVm := guarded .suspendVm Session.suspendVm
  resumeVm := guarded .resumeVm Session.resumeVm
  exitVm c := guarded .exitVm (Session.exitVm c)
  events s := Session.events s.inner
  eventsClosed s := Session.eventsClosed s.inner

end Faulty

end Debugger
