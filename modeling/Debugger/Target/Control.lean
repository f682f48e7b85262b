import Debugger.Target.Registry
import Debugger.Thread.BreakpointHit

/-! # Operations on the whole target -/

namespace Debugger

variable {σ : Type} [Session σ]

/-- Builds a system for a machine: events count from now on, and every thread of the machine is listed. -/
def attach (session : σ) (settings : TargetSettings) : Except DebugError (System σ) :=
  let start : System σ :=
    { session
      settings
      filters := .ofSettings settings.filters
      reader := (Session.events session).subscribe }
  let op : Client σ Unit := do
    let ids ← askFor "listing threads" Session.allThreads
    for id in ids do
      let _ ← act (addThread id)
    modify (·.fire .target .create)
  match op start with
  | .ok () s => .ok s
  | .error e _ => .error e

/-- Suspends the machine and with it every listed thread. -/
def suspendAll : Client σ Unit := do
  askFor "suspending VM" Session.suspendVm
  modify fun s => s.suspendListed.fire .target (.suspend .clientRequest)

/-- Resumes the machine and with it every listed thread. -/
def resumeAll : Client σ Unit := do
  modify fun s => s.resumeListed.fire .target (.resume .clientRequest)
  askFor "resuming VM" Session.resumeVm

/-- The exit code of a machine that the debugger ends. -/
def terminateExitCode : Int32 := 1

/-- Ends the machine, if the settings allow it. -/
def terminateTarget : Client σ Unit := do
  unless (← get).targetCanTerminate do throw .terminateForbidden
  match ← ask (Session.exitVm terminateExitCode) with
  | .ok () | .error .disconnected => modify (·.disconnect)
  | .error e => throw (.session "terminating VM" e)

/-- Ends the machine on behalf of a thread. -/
def terminateThread (_t : ThreadRef) : Client σ Unit := do
  needTarget
  terminateTarget

/-- Installs a line breakpoint. -/
def installBreakpoint (typeName : String) (line : Int32) (policy : SuspendPolicy) :
    Client σ BreakpointRef := do
  let request ← askFor "installing breakpoint"
    (Session.createBreakpointRequest ⟨typeName, line, policy⟩)
  modifyGet fun s =>
    let b := s.breakpoints.size
    (b, { s with
      breakpoints := s.breakpoints.push ⟨request, typeName, line, policy, 0⟩
      installed := s.installed.put request b })

/-- The thread is at this breakpoint no more. -/
def System.leaveBreakpoint (s : System σ) (b : BreakpointRef) (t : ThreadRef) : System σ :=
  s.mapThread t fun th => { th with breakpoints := th.breakpoints.filter (· ≠ b) }

/-- Removes a breakpoint, also from the threads that are at it. -/
def removeBreakpoint (b : BreakpointRef) : Client σ Unit := do
  let request := ((← get).breakpoint b).request
  modify fun s =>
    s.registry.foldl (·.leaveBreakpoint b) { s with installed := s.installed.erase request }
  askFor "removing breakpoint" (Session.deleteEventRequest .breakpoint request)

def System.addListener (s : System σ) (l : Listener) : System σ :=
  { s with listeners := s.listeners ++ [l] }

def System.removeListener (s : System σ) (name : String) : System σ :=
  { s with listeners := s.listeners.filter (·.name ≠ name) }

/-- Records types whose code could not be replaced. -/
def System.recordReplaceFailure (s : System σ) (types : List String) : System σ :=
  { s with replaceFailed := true, obsoleteTypes := s.obsoleteTypes ++ types }

/-- The client lets go of the target; without invocations under way, dispatch stops with it. -/
def System.release (s : System σ) : System σ :=
  let s := { s with released := true }
  if s.targetAlive then s else { s with shutdown := true, dispatching := false }

end Debugger
