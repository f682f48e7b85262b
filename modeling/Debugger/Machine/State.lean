import Debugger.Session
import Debugger.Table

/-! # A machine in memory

A small machine with threads, frames and event requests, whose behaviour is scripted beforehand.
Resuming a thread with an armed step request completes the step at once: the thread is suspended again
at the next scripted landing, or at one that the depth of the step implies, and a step event goes out.
-/

namespace Debugger

namespace Machine

/-- A thread of the machine. -/
structure Task where
  id : ThreadId
  name : String
  group : Option GroupId
  priority : Int32
  suspended : Bool
  /-- Top first. -/
  frames : List RemoteFrame
  deriving DecidableEq, Repr, Inhabited

/-- A group of threads. -/
structure Group where
  name : String
  parent : Option GroupId
  deriving DecidableEq, Repr, Inhabited

/-- A step request and what became of it. -/
structure StepEntry where
  id : RequestId
  request : StepRequest
  fired : Bool
  deleted : Bool
  deriving DecidableEq, Repr, Inhabited

/-- A request that still waits for its step. -/
def StepEntry.armed (e : StepEntry) (thread : ThreadId) : Bool :=
  e.request.thread == thread && !e.fired && !e.deleted

/-- An invocation that ran, and the request timeout in force meanwhile. -/
structure InvocationEntry where
  call : Invocation
  timeout : Option Nat
  deriving DecidableEq, Repr, Inhabited

end Machine

/-- The machine's state, with a record of what it was asked to do. -/
structure Machine where
  tasks : List Machine.Task := []
  groups : Table GroupId Machine.Group := .empty
  /-- Where the next steps of a thread land. -/
  landings : Table ThreadId (List (List RemoteFrame)) := .empty
  steps : List Machine.StepEntry := []
  breakpoints : List (RequestId × BreakpointRequest) := []
  deleted : List (RequestKind × RequestId) := []
  invokeResults : List (Except SessionError Value) := []
  invocations : List Machine.InvocationEntry := []
  /-- Whether invocations need a permit. -/
  gated : Bool := false
  /-- Whether a permit waits for the next invocation. -/
  permit : Bool := false
  forcedReturns : List ThreadId := []
  /-- The deepest frame removed by a pop; the next step enters it again. -/
  reentry : Table ThreadId RemoteFrame := .empty
  locals : Table (FrameId × String) Variable := .empty
  monitors : Table ThreadId (List ObjectId) := .empty
  /-- Threads that accept a suspend request and run on. -/
  ignoresSuspend : List ThreadId := []
  /-- Threads whose steps are completed by the script and not by a resume. -/
  deferred : List ThreadId := []
  /-- How the next resumes of a thread fail. -/
  resumeFailures : List SessionError := []
  popsFrames : Bool := false
  hidesGroups : Bool := false
  timeout : Option Nat := some 3000
  timeouts : List (Option Nat) := []
  resumes : List ThreadId := []
  popped : List (ThreadId × FrameId) := []
  vmSuspends : Nat := 0
  vmResumes : Nat := 0
  exitCode : Option Int32 := none
  nextRequest : RequestId := 1
  nextFrame : FrameId := 10000
  events : Channel EventSet := .new 256
  deriving Inhabited

namespace Machine

/-- The machine's answer for a thread it does not have. -/
def unknownThread (thread : ThreadId) : SessionError :=
  .protocol ("unknown thread " ++ toString thread)

def task? (m : Machine) (thread : ThreadId) : Option Task := m.tasks.find? (·.id = thread)

/-- Changes the first thread of that id. -/
def updateTask (thread : ThreadId) (f : Task → Task) : List Task → List Task
  | [] => []
  | t :: ts => if t.id = thread then f t :: ts else t :: updateTask thread f ts

def mapTask (m : Machine) (thread : ThreadId) (f : Task → Task) : Machine :=
  { m with tasks := updateTask thread f m.tasks }

def mapTasks (m : Machine) (f : Task → Task) : Machine := { m with tasks := m.tasks.map f }

def Task.setSuspended (suspended : Bool) (t : Task) : Task := { t with suspended }

def emit (m : Machine) (s : EventSet) : Machine := { m with events := m.events.send s }

def isSuspended (m : Machine) (thread : ThreadId) : Bool :=
  m.tasks.any fun t => t.id = thread && t.suspended

def framesOf (m : Machine) (thread : ThreadId) : List RemoteFrame :=
  ((m.task? thread).map (·.frames)).getD []

/-- Changes the last entry that passes the test. -/
def updateLast (p : StepEntry → Bool) (f : StepEntry → StepEntry) (es : List StepEntry) :
    List StepEntry :=
  let rec first : List StepEntry → List StepEntry
    | [] => []
    | e :: es => if p e then f e :: es else e :: first es
  (first es.reverse).reverse

/-- Moves a top frame on to the next line. -/
def advanceTop : List RemoteFrame → List RemoteFrame
  | [] => []
  | f :: fs =>
    { f with location :=
      { f.location with
        codeIndex := f.location.codeIndex + 1
        line := f.location.line.map (· + 1) } } :: fs

/-- Moves a top frame back to its start. -/
def restartTop : List RemoteFrame → List RemoteFrame
  | [] => []
  | f :: fs => { f with location := { f.location with codeIndex := 0 } } :: fs

/-- Returns from the top frame, unless it is the only one. -/
def returnTop : List RemoteFrame → List RemoteFrame
  | [] => []
  | [f] => [f]
  | _ :: fs => fs

/-- The stack on which a step lands that no script decides.  A popped frame is entered again under the
number `fresh`. -/
def landing (depth : StepDepth) (forced : Bool) (reentry : Option RemoteFrame) (fresh : FrameId)
    (frames : List RemoteFrame) : List RemoteFrame :=
  match depth with
  | .reenter => restartTop frames
  | .out => returnTop frames
  | .into | .over =>
    if forced then returnTop frames
    else match reentry with
      | some f =>
        { f with id := fresh, location := { f.location with codeIndex := 0 } } :: frames
      | none => advanceTop frames

/-- Whether such a landing enters a popped frame again. -/
def reenters (depth : StepDepth) (forced : Bool) (reentry : Option RemoteFrame) : Bool :=
  match depth with
  | .into | .over => !forced && reentry.isSome
  | .out | .reenter => false

/-- Completes the newest armed step of the thread, and reports it if the thread has frames. -/
def completeStep (m : Machine) (thread : ThreadId) : Machine × Option VmEvent :=
  match m.steps.reverse.find? (·.armed thread) with
  | none => (m, none)
  | some armed =>
    let scripted := ((m.landings.find? thread).getD []).head?
    let forced := m.forcedReturns.contains thread
    let reentry := m.reentry.find? thread
    let depth := armed.request.depth
    let m := { m with
      steps := updateLast (·.armed thread) (fun e => { e with fired := true }) m.steps
      landings := match m.landings.find? thread with
        | some ls => m.landings.put thread ls.tail
        | none => m.landings
      forcedReturns := m.forcedReturns.filter (· ≠ thread)
      reentry := m.reentry.erase thread }
    match m.task? thread with
    | none => (m, none)
    | some t =>
      let frames := scripted.getD (landing depth forced reentry m.nextFrame t.frames)
      let m := m.mapTask thread fun t => { t with suspended := true, frames }
      match frames with
      | [] => (m, none)
      | top :: _ =>
        let m := if scripted.isNone && reenters depth forced reentry
          then { m with nextFrame := m.nextFrame + 1 } else m
        (m, some (.step armed.id thread top.location))

end Machine

end Debugger
