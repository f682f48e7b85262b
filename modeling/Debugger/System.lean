import Debugger.Bus
import Debugger.Session
import Debugger.Table
import Debugger.Thread.State

/-! # The debugger and its machine

A `System` is everything there is: the session with the machine, what the debugger knows of the
machine's threads, and the debugger's own background tasks.  Every operation of the debugger is a
function on systems; it either runs through in one go or ends by leaving a task behind, so the points at
which operations can interleave are exactly the points between two of them.
-/

namespace Debugger

/-- What a target is attached with. -/
structure TargetSettings where
  allowTerminate : Bool := false
  /-- How long a suspend request waits for its confirmation, in milliseconds. -/
  suspendTimeout : Nat := 3000
  /-- How long it waits between two looks, in milliseconds; zero counts as one. -/
  suspendPoll : Nat := 50
  filters : FilterSettings := {}
  deriving Repr, Inhabited

/-- How a suspend request ended. -/
inductive SuspendOutcome where
  /-- The machine reported the thread as suspended. -/
  | confirmed
  /-- The machine never did so in time; the thread is treated as suspended all the same. -/
  | timedOut
  | disconnected
  deriving DecidableEq, Repr, Inhabited

/-- What is left to do for a suspend request. -/
inductive WatchState where
  /-- The machine has not been asked yet. -/
  | asking
  /-- The machine was asked, and is given time until `deadline`. -/
  | polling (deadline : Nat)
  | done (result : Except DebugError SuspendOutcome)
  deriving Inhabited

/-- The task that confirms a suspend request. -/
structure Watch where
  thread : ThreadRef
  state : WatchState
  cancelled : Bool
  deriving Inhabited

/-- What is left to do for an invocation. -/
inductive InvocationState where
  /-- The call has not reached the machine. -/
  | calling
  /-- The machine holds the call back. -/
  | held
  /-- The machine has let the call in. -/
  | letIn
  | done (result : Except SessionError Value)
  deriving Inhabited

/-- The task that carries an invocation out and restores its thread. -/
structure InvocationTask where
  thread : ThreadRef
  call : Invocation
  state : InvocationState
  deriving Inhabited

/-- What an evaluation does in its thread. -/
inductive EvaluationBody where
  /-- Gives its result at once. -/
  | succeed
  | fail
  /-- Goes on until it is told to finish, or is cancelled. -/
  | wait
  /-- Tries to evaluate something else meanwhile. -/
  | nest
  /-- Calls a method. -/
  | invoke (target : InvokeTarget) (method : MethodRef) (args : List Value) (nonvirtual : Bool)
  deriving DecidableEq, Repr, Inhabited

/-- What an evaluation gives. -/
inductive EvaluationResult where
  | succeeded
  | finished
  | nested (result : Except DebugError Unit)
  | value (v : Value)
  deriving Inhabited

/-- What is left to do for an evaluation. -/
inductive EvaluationState where
  | starting
  | waiting
  | invoking (task : Nat)
  | done (result : Except DebugError EvaluationResult)
  deriving Inhabited

/-- The task that runs an evaluation. -/
structure EvaluationTask where
  thread : ThreadRef
  detail : EventDetail
  honorsBreakpoints : Bool
  body : EvaluationBody
  /-- The evaluation's mark in its thread, from its start. -/
  token : Nat
  finish : Bool
  state : EvaluationState
  deriving Inhabited

/-- Names a background task. -/
inductive TaskId where
  | dispatcher
  | watch (n : Nat)
  | invocation (n : Nat)
  | evaluation (n : Nat)
  deriving DecidableEq, Repr, Inhabited

/-- The debugger together with the machine it controls. -/
structure System (σ : Type) where
  session : σ
  settings : TargetSettings
  bus : Bus := .new Bus.defaultCapacity
  /-- Every thread object, frame and breakpoint there ever was. -/
  threads : Array Thread := #[]
  frames : FrameStore := #[]
  breakpoints : Array Breakpoint := #[]
  /-- The threads that the target lists. -/
  registry : List ThreadRef := []
  installed : Table RequestId BreakpointRef := .empty
  listeners : List Listener := []
  /-- Whose step a request belongs to. -/
  stepOwners : Table RequestId ThreadId := .empty
  filters : StepFilters
  suspended : Bool := false
  disconnected : Bool := false
  /-- Code is being replaced in the running machine. -/
  replacingCode : Bool := false
  /-- Code could not be replaced, so some threads may run obsolete code. -/
  replaceFailed : Bool := false
  obsoleteTypes : List String := []
  /-- Invocations under way; requests may take forever while there is one. -/
  activeInvocations : Nat := 0
  savedTimeout : Option Nat := none
  /-- The client has let go of the target. -/
  released : Bool := false
  /-- Event dispatch is to stop. -/
  shutdown : Bool := false
  /-- Event dispatch goes on. -/
  dispatching : Bool := true
  reader : Reader
  /-- The votes that listeners were asked for. -/
  ballots : List Ballot := []
  /-- The conditions that were reported beside results. -/
  notices : List (ThreadId × Status) := []
  /-- Milliseconds since the start. -/
  now : Nat := 0
  /-- Tasks that can go on, in the order in which they became ready. -/
  ready : List TaskId := []
  /-- Tasks that sleep, with the time at which each wakes up. -/
  sleeping : List (Nat × TaskId) := []
  watches : Array Watch := #[]
  invocations : Array InvocationTask := #[]
  evaluations : Array EvaluationTask := #[]
  nextToken : Nat := 0

/-- Something the debugger does that cannot fail. -/
abbrev Debug (σ α : Type) := StateM (System σ) α

/-- An operation that a client asks for. -/
abbrev Client (σ α : Type) := EStateM DebugError (System σ) α

/-- The monads that act on systems with a session of type `σ`. -/
class ActsOn (m : Type → Type) (σ : outParam Type) where
  /-- Carries out something that cannot fail. -/
  act {α : Type} : Debug σ α → m α

instance {σ : Type} : ActsOn (StateM (System σ)) σ := ⟨fun x => x⟩

instance {σ : Type} : ActsOn (EStateM DebugError (System σ)) σ where
  act x := fun s => match x s with
    | (a, s) => .ok a s

export ActsOn (act)

namespace System

variable {σ α : Type}

/-- The thread object of that name. -/
def thread (s : System σ) (t : ThreadRef) : Thread := s.threads[t]?.getD default

def mapThread (s : System σ) (t : ThreadRef) (f : Thread → Thread) : System σ :=
  { s with threads := s.threads.modify t f }

def fire (s : System σ) (source : Element) (a : Announcement) : System σ :=
  { s with bus := s.bus.fire (a.event source) }

def queue (s : System σ) (source : Element) (a : Announcement) : System σ :=
  { s with bus := s.bus.queue (a.event source) }

def flush (s : System σ) : System σ := { s with bus := s.bus.flush }

/-- The element that speaks for a thread. -/
def element (s : System σ) (t : ThreadRef) : Element := .thread (s.thread t).id

/-- The target lives as long as its client holds it, or an invocation needs it. -/
def targetAlive (s : System σ) : Bool := !s.released || s.activeInvocations > 0

/-- The listed thread of that number. -/
def find? (s : System σ) (id : ThreadId) : Option ThreadRef :=
  s.registry.find? fun t => (s.thread t).id = id

/-- A thread is about to run, or its stack to change: its frames are unbound and have to be looked up
again. -/
def preserveFrames (s : System σ) (t : ThreadRef) : System σ :=
  { s.mapThread t Thread.markStale with frames := s.frames.unbindAll (s.thread t).frames }

/-- The thread starts to run. -/
def startRunning (s : System σ) (t : ThreadRef) : System σ :=
  (s.mapThread t (·.setRunning true)).preserveFrames t

/-- The thread counts as suspended. -/
def stopRunning (s : System σ) (t : ThreadRef) : System σ := s.mapThread t (·.setRunning false)

/-- A task can go on. -/
def wake (s : System σ) (task : TaskId) : System σ :=
  if s.ready.contains task then s else { s with ready := s.ready ++ [task] }

end System

variable {σ α : Type} {m : Type → Type} [ActsOn m σ]

/-- Makes a call to the machine. -/
def ask (call : Call σ α) : m (Except SessionError α) := act fun s =>
  match call s.session with
  | .ok a session => (.ok a, { s with session })
  | .error e session => (.error e, { s with session })

/-- Makes a call whose failure fails the client's operation. -/
def askFor (activity : String) (call : Call σ α) : Client σ α := do
  match ← ask call with
  | .ok a => return a
  | .error e => throw (.session activity e)

/-- Requires the target of the thread to live. -/
def needTarget : Client σ Unit := do
  unless (← get).targetAlive do throw .targetGone

/-- The operation's result as a value. -/
def attempt (op : Client σ α) : m (Except DebugError α) := act fun s =>
  match op s with
  | .ok a s => (.ok a, s)
  | .error e s => (.error e, s)

end Debugger
