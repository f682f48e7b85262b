import Debugger.CommandLine.Arguments
import Debugger.Report.Names
import Debugger.Schedule
import Debugger.Settings.Load
import Debugger.Text.Columns
import Debugger.Thread.Query
import Debugger.Wire.Session

/-! # Carrying out a request

A request is carried out on a machine that is reached under the address in the settings.  What it prints is
kept line by line, also if it fails in the end.
-/

namespace Debugger.CommandLine

open Wire

/-- What is found under an address. -/
inductive Reach (π : Type) where
  | peer (p : π)
  /-- Nobody listens there. -/
  | refused
  /-- There is no such address. -/
  | unresolved (reason : String)
  deriving Inhabited

/-- A debugger at work, and what it has printed. -/
structure Console (π : Type) where
  system : System (WireSession π)
  lines : List String := []

/-- Something the command line does; a failure is a text. -/
abbrev Work (π α : Type) := EStateM String (Console π) α

/-- What happened while something was done, in one line. -/
def inContext (context problem : String) : String := context ++ ": " ++ problem

/-- An error and the error behind it. -/
def causes (e : DebugError) : String :=
  e.source?.elim e.message fun s => inContext e.message s.message

/-! ### Settings -/

/-- A failure to load settings; the reason for which a file cannot be read is an error of its own. -/
def loadFailure (path : String) (e : SettingsError) : String :=
  let text := inContext ("failed to load config " ++ path) e.message
  match e with
  | .unreadable _ reason => inContext text reason
  | _ => text

/-- The settings of a file, if one is named, with what the request replaces. -/
def Request.settings (r : Request) (file : Option (String × Option (List UInt8))) :
    Except String Settings := do
  let s ← match file with
    | none => pure {}
    | some (path, contents) =>
      match Settings.ofFile path contents with
      | .ok s => pure s
      | .error e => throw (loadFailure path e)
  return { s with
    connect := { s.connect with
      host := r.host.getD s.connect.host
      port := r.port.getD s.connect.port } }

def connectionSettings (s : Settings) : ConnectionSettings :=
  { handshake := s.timeouts.handshake, reply := some s.timeouts.request }

def targetSettings (s : Settings) : TargetSettings :=
  { allowTerminate := s.connect.allowTerminate
    suspendTimeout := s.timeouts.suspend
    suspendPoll := s.timeouts.suspendPoll
    filters := s.stepFilters }

/-! ### Texts -/

/-- A thread as a line of the list. -/
def threadLine (t : Thread) (name : String) : String :=
  let state :=
    if t.terminated then "terminated" else if t.isSuspended then "suspended" else "running"
  Text.padLeft 6 (toString t.id) ++ "  " ++ Text.padRight 32 name ++ " " ++ state ++
    if t.system then " [system]" else ""

/-- Where a frame is. -/
def frameText (f : Frame) : String :=
  match f.remote with
  | none => "<invalid frame>"
  | some r =>
    let l := r.location
    l.method.declaringType ++ "." ++ l.method.name ++ " line " ++ l.line.elim "?" toString ++
      " (bci " ++ toString l.codeIndex ++ ")"

/-! ### Work -/

section

variable {π α : Type} [Peer π]

/-- How many stretches of background tasks run at most at a time. -/
def fuel : Nat := 1000000

def print (line : String) : Work π Unit := modify fun d => { d with lines := d.lines ++ [line] }

/-- Does something that cannot fail. -/
def act (x : Debug (WireSession π) α) : Work π α := fun d =>
  let (a, system) := x d.system
  .ok a { d with system }

/-- Lets the debugger do something; a failure is told with what was being done. -/
def perform (context : String) (op : Client (WireSession π) α) : Work π α := do
  match ← act (attempt op) with
  | .ok a => return a
  | .error e => throw (inContext context (causes e))

/-- The thread as it is known now. -/
def threadOf (t : ThreadRef) : Work π Thread := return (← get).system.thread t

def frameOf (f : FrameRef) : Work π Frame := return ((← get).system.frames[f]?).getD default

/-- The listed thread of that number. -/
def findThread (id : ThreadId) : Work π ThreadRef := do
  match (← get).system.find? id with
  | some t => return t
  | none => throw ("no thread with id " ++ toString id)

def listThread (t : ThreadRef) : Work π Unit := do
  let name := match ← act (attempt (threadName t)) with
    | .ok name => name
    | .error _ => "<unknown>"
  print (threadLine (← threadOf t) name)

/-- Lists the threads by their numbers. -/
def listThreads : Work π Unit := do
  let s := (← get).system
  for t in s.registry.mergeSort fun a b => (s.thread a).id ≤ (s.thread b).id do
    listThread t

def printFrames : (depth : Nat) → List FrameRef → Work π Unit
  | _, [] => return
  | depth, f :: fs => do
    print ("#" ++ Text.padRight 3 (toString depth) ++ " " ++ frameText (← frameOf f))
    printFrames (depth + 1) fs

def printStack (id : ThreadId) : Work π Unit := do
  let t ← findThread id
  unless (← threadOf t).isSuspended do
    throw ("thread " ++ toString id ++ " is not suspended")
  printFrames 0 (← perform "failed to read the stack" (stackFrames t))

/-- Suspends a thread, however that ends. -/
def suspendFirst (t : ThreadRef) : Work π Unit := do
  if let some n ← perform "failed to suspend" (suspend t) then
    act (settle fuel)
    act (awaitWatch fuel n fuel)
    let s := (← get).system
    if let some (.error e) := s.outcome? n then throw (inContext "failed to suspend" (causes e))

def beginStep (t : ThreadRef) : StepMode → Client (WireSession π) Unit
  | .over => stepOver t
  | .into => stepInto t
  | .out => stepReturn t

/-- Why the thread was suspended, if it was, since the reader's place. -/
def suspension? (id : ThreadId) (reader : Reader) (s : System (WireSession π)) : Option EventDetail :=
  (s.bus.channel.receiveAll reader).1.findSome? fun
    | .message e => if e.source = .thread id && e.kind = .suspend then some e.detail else none
    | .lagged _ => none

/-- Waits for the thread to be suspended; without any time to wait nothing is seen in time. -/
def awaitSuspension (id : ThreadId) (reader : Reader) (wait : Nat) : Work π EventDetail := do
  act (settle fuel)
  let s := (← get).system
  let seen := if wait = 0 then none else suspension? id reader s
  match seen with
  | some detail => return detail
  | none => throw ("step did not complete within " ++ toString wait ++ "s")

def stepThread (id : ThreadId) (mode : StepMode) (wait : Nat) : Work π Unit := do
  let t ← findThread id
  unless (← threadOf t).isSuspended do suspendFirst t
  unless ← act (canStep t) do
    throw ("thread " ++ toString id ++ " cannot step in its current state")
  let reader := (← get).system.bus.subscribe
  perform "step failed" (beginStep t mode)
  let detail ← awaitSuspension id reader wait
  unless detail = .stepEnd do print ("stopped by " ++ Named.nameOf detail)
  match ← perform "failed to read the stack" (topFrame t) with
  | some f => print (frameText (← frameOf f))
  | none => print "<no frames>"

def Action.work : Action → Work π Unit
  | threads => listThreads
  | stack thread => printStack thread
  | step thread mode wait => stepThread thread mode wait

/-- Connects to what is found under the address, and attaches to it. -/
def attachTo (s : Settings) (found : Reach π) : Except String (System (WireSession π)) := do
  let address := s.connect.address
  let failed (e : SessionError) : String := inContext ("failed to connect to " ++ address) e.message
  match found with
  | .unresolved reason => throw (failed (.protocol (inContext ("resolving " ++ address) reason)))
  | .refused => throw (failed .disconnected)
  | .peer p =>
    match Wire.Client.connect (connectionSettings s) p with
    | (.error e, _) => throw (failed e.toSession)
    | (.ok (), client) =>
      match attach (WireSession.new client) (targetSettings s) with
      | .ok system => return system
      | .error e => throw (inContext "failed to attach to the VM" (causes e))

end

/-! ### Requests -/

/-- How a run of the program ends. -/
structure Ending where
  code : UInt32
  out : String := ""
  err : String := ""
  deriving DecidableEq, Repr, Inhabited

/-- The exit code of a run that fails. -/
def failureCode : UInt32 := 2

private def lines (ls : List String) : String := String.join (ls.map (· ++ "\n"))

private def failure (ls : List String) (e : String) : Ending :=
  { code := failureCode, out := lines ls, err := lines [e] }

/-- Carries out a request; `reach` tells what is found under an address. -/
def Request.run {π : Type} [Peer π] (r : Request) (file : Option (String × Option (List UInt8)))
    (reach : ConnectSettings → Reach π) : Ending :=
  match r.settings file with
  | .error e => failure [] e
  | .ok s =>
    match attachTo s (reach s.connect) with
    | .error e => failure [] e
    | .ok system =>
      match r.action.work { system } with
      | .ok () d => { code := 0, out := lines d.lines }
      | .error e d => failure d.lines e

end Debugger.CommandLine
