import Debugger.Machine.State

/-! # Scripting the machine

What a script does to the machine beside the calls of its debugger: it sets threads up, decides how
later calls go, and makes things happen.
-/

namespace Debugger.Machine

def addTask (m : Machine) (t : Task) : Machine := { m with tasks := m.tasks ++ [t] }

def addGroup (m : Machine) (id : GroupId) (g : Group) : Machine :=
  { m with groups := m.groups.put id g }

/-- The next step of the thread that has no landing yet lands on `frames`. -/
def addLanding (m : Machine) (thread : ThreadId) (frames : List RemoteFrame) : Machine :=
  { m with landings := m.landings.put thread ((m.landings.find? thread).getD [] ++ [frames]) }

def addInvokeResult (m : Machine) (r : Except SessionError Value) : Machine :=
  { m with invokeResults := m.invokeResults ++ [r] }

def setVariable (m : Machine) (frame : FrameId) (v : Variable) : Machine :=
  { m with locals := m.locals.put (frame, v.name) v }

def setOwnedMonitors (m : Machine) (thread : ThreadId) (objects : List ObjectId) : Machine :=
  { m with monitors := m.monitors.put thread objects }

def ignoreSuspend (m : Machine) (thread : ThreadId) : Machine :=
  { m with ignoresSuspend := thread :: m.ignoresSuspend }

/-- From now on the steps of the thread wait for the script to complete them. -/
def deferSteps (m : Machine) (thread : ThreadId) : Machine :=
  { m with deferred := thread :: m.deferred }

def failNextResume (m : Machine) (e : SessionError) : Machine :=
  { m with resumeFailures := m.resumeFailures ++ [e] }

def setFrames (m : Machine) (thread : ThreadId) (frames : List RemoteFrame) : Machine :=
  m.mapTask thread fun t => { t with frames }

def undefer (m : Machine) (thread : ThreadId) : Machine :=
  { m with deferred := m.deferred.filter (· ≠ thread) }

/-- Completes the pending step of the thread; tells whether an event went out. -/
def completeDeferred (m : Machine) (thread : ThreadId) : Machine × Bool :=
  match (m.undefer thread).completeStep thread with
  | (m, some e) => (m.emit (.single e), true)
  | (m, none) => (m, false)

/-- Completes the pending step of the thread at a breakpoint: both events go out in one set. -/
def completeDeferredAt (m : Machine) (thread : ThreadId) (request : RequestId) (stepFirst : Bool) :
    Machine × Bool :=
  match (m.undefer thread).completeStep thread with
  | (m, some (.step r t location)) =>
    let step := VmEvent.step r t location
    let hit := VmEvent.breakpoint request thread location
    (m.emit ⟨some .thread, if stepFirst then [step, hit] else [hit, step]⟩, true)
  | (m, _) => (m, false)

/-- Whether the breakpoint request stops the whole machine. -/
def stopsAll (m : Machine) (request : RequestId) : Bool :=
  m.breakpoints.any fun b => b.1 == request && b.2.policy == .vm

/-- Suspends the thread at a breakpoint and reports the hit, if the thread has frames. -/
def hit (m : Machine) (thread : ThreadId) (request : RequestId) : Machine × Bool :=
  let all := m.stopsAll request
  let m := if all then m.mapTasks (·.setSuspended true) else m
  match m.task? thread with
  | none => (m, false)
  | some t =>
    let m := m.mapTask thread (·.setSuspended true)
    match t.frames with
    | [] => (m, false)
    | top :: _ =>
      let policy := if all then SuspendPolicy.vm else .thread
      (m.emit ⟨some policy, [.breakpoint request thread top.location]⟩, true)

end Debugger.Machine
