import Debugger.Session
import Debugger.Value.Describe
import Debugger.Wire.Resolve

/-! # Sessions over a connection

The debugger's calls, made as queries.  What the machine reports is put into the debugger's terms one set
after another, and published in the order in which it came; the end of the connection is the last thing
published.
-/

namespace Debugger.Wire

/-- A session over a connection. -/
structure WireSession (π : Type) where
  resolver : Resolver π
  /-- How far the machine's reports have been published. -/
  reader : Reader
  /-- What was published. -/
  events : Channel EventSet
  /-- The end of the connection has not been published. -/
  forwarding : Bool := true
  deriving Inhabited

namespace WireSession

variable {π α : Type}

/-- A session over a client; what the machine reported before is not published. -/
def new (client : Client π) : WireSession π :=
  { resolver := { client }
    reader := client.connection.events.subscribe
    events := .new Connection.defaultCapacity }

def connection (s : WireSession π) : Connection := s.resolver.client.connection

def mapClient (s : WireSession π) (f : Client π → Client π) : WireSession π :=
  { s with resolver := { s.resolver with client := f s.resolver.client } }

variable [Peer π]

/-- Publishes what the machine has reported, at most `n` sets.  Sets that were missed are passed over. -/
def publish : (n : Nat) → WireSession π → WireSession π
  | 0, s => s
  | n + 1, s =>
    if !s.forwarding then s
    else
      match s.connection.events.receive? s.reader with
      | some (.lagged _, reader) => publish n { s with reader }
      | some (.message m, reader) =>
        let (set?, resolver) := Resolver.eventSet? m s.resolver
        publish n { s with resolver, reader, events := set?.elim s.events s.events.send }
      | none =>
        if s.connection.ended then
          { s with events := s.events.send (.single .disconnected), forwarding := false }
        else s

/-- How many sets are published at a time; a machine that reports more for every question about the last
is never done. -/
def publishLimit : Nat := UInt32.size

/-- Publishes all that the machine has reported. -/
def publishAll (s : WireSession π) : WireSession π := s.publish publishLimit

/-- Makes use of the resolver, and publishes what was reported meanwhile. -/
def within (x : Resolve π α) : Call (WireSession π) α := fun s =>
  match x s.resolver with
  | .ok a resolver => .ok a { s with resolver }.publishAll
  | .error e resolver => .error e { s with resolver }.publishAll

def ask (q : Query α) : Call (WireSession π) α := within (Resolver.ask q)

/-- Asks only a machine that has the capability. -/
def askIf (has : Capabilities → Bool) (q : Query α) : Call (WireSession π) α := do
  unless has (← get).connection.capabilities do throw .unsupported
  ask q

/-! ### Frames -/

/-- Frames with what their places stand for. -/
def locate : List FrameEntry → Resolve π (List RemoteFrame)
  | [] => return []
  | f :: fs => do
    let location ← Resolver.location f.place
    let rest ← locate fs
    return ⟨f.id, location⟩ :: rest

def frames (t : ThreadId) : Resolve π (List RemoteFrame) := do
  locate (← Resolver.ask (.frames t 0 (-1)))

def frameCount (t : ThreadId) : Resolve π Nat := do
  let n ← Resolver.ask (.frameCount t)
  if n < 0 then throw (.protocol ("negative frame count " ++ toString n))
  return n.toInt.toNat

/-- The variables of a method; a method may have no table of them. -/
def methodVariables (m : MethodRef) : Resolve π (List VariableEntry) := do
  match ← Resolver.attempt (Client.ask (.variableTable m.type m.method)) with
  | .ok vs => return vs
  | .error (.refused code) =>
    if code = Code.absentInformation then return [] else throw (WireError.refused code).toSession
  | .error e => throw e.toSession

/-- The value of the first variable of that name that exists at the frame's place. -/
def frameVariable (t : ThreadId) (f : RemoteFrame) (name : String) : Resolve π (Option Variable) := do
  let vs ← methodVariables f.location.method.id
  match vs.find? fun v => v.name = name && v.inScope f.location.codeIndex with
  | none => return none
  | some v =>
    match ← Resolver.ask (.slotValues t f.id [(v.slot, v.signature)]) with
    | [] => throw (.protocol "empty GetValues reply")
    | value :: _ => return some { name := v.name, signature := v.signature, value }

/-! ### Priorities -/

/-- The field in which a thread keeps its priority. -/
def priorityField : String := "priority"

/-- The nearest field of that name, from a type upwards; nothing if the way is longer than `fuel`. -/
def fieldFrom (name : String) : (fuel : Nat) → Option TypeId → Resolve π (Option (Option Member))
  | _, none => return some none
  | 0, some _ => return none
  | fuel + 1, some type => do
    match (← Resolver.ask (.fields type)).find? (·.name = name) with
    | some field => return some (some field)
    | none => fieldFrom name fuel (← Resolver.ask (.superclass type))

/-- There are no more types than type numbers, so a longer way goes in a circle. -/
def typeLimit : Nat := UInt64.size

/-- The value that the thread's object has in the nearest field of the right name. -/
def priority (t : ThreadId) : Resolve π Int32 := do
  let type ← Resolver.ask (.objectType t)
  match (← fieldFrom priorityField typeLimit (some type)).join with
  | none => throw (.protocol "thread object has no priority field")
  | some field =>
    match (← Resolver.ask (.fieldValues t [field.id])).head? with
    | some (.int v) => return v
    | other => throw (.protocol ("unexpected priority value " ++ Value.describe? other))

/-! ### Requests -/

/-- How a policy is asked for. -/
def policyCode : SuspendPolicy → UInt8
  | .thread => Policy.thread
  | .vm => Policy.all

/-- The event that a request of that kind reports. -/
def eventKind : RequestKind → UInt8
  | .step => EventKind.step
  | .breakpoint => EventKind.breakpoint

/-- Steps go from line to line. -/
def lineSize : UInt32 := 1

/-- How a depth is asked for; frames cannot be entered again. -/
def depthCode? : StepDepth → Option UInt32
  | .into => some 0
  | .over => some 1
  | .out => some 2
  | .reenter => none

/-- The conditions of a step request.  The count comes last, so that only what passed the others is
counted. -/
def stepModifiers (r : StepRequest) (depth : UInt32) : List EventModifier :=
  .step r.thread lineSize depth :: r.exclusions.map .classExclude ++ (r.count.map .count).toList

def requestStep (r : StepRequest) : Resolve π RequestId :=
  match depthCode? r.depth with
  | none => throw .unsupported
  | some depth =>
    Resolver.ask (.setRequest EventKind.step (policyCode r.policy) (stepModifiers r depth))

def requestBreakpoint (r : BreakpointRequest) : Resolve π RequestId := do
  let place ← Resolver.placeOfLine r.typeName r.line
  Resolver.ask (.setRequest EventKind.breakpoint (policyCode r.policy) [.location place])

/-! ### Invocations -/

/-- How options are asked for: a bit for each. -/
def optionBits (o : InvokeOptions) : UInt32 :=
  (if o.singleThreaded then 1 else 0) ||| (if o.nonvirtual then 2 else 0)

/-- The query that makes an invocation. -/
def invocationQuery (i : Invocation) : Query InvokeReply :=
  let bits := optionBits i.options
  match i.target with
  | .on (.type c) => .invokeStatic c i.thread i.method.method i.args bits
  | .on (.object o c) => .invokeOn o i.thread c i.method.method i.args bits
  | .new c => .newInstance c i.thread i.method.method i.args bits

def invoke (i : Invocation) : Resolve π Value := do
  let reply ← Resolver.ask (invocationQuery i)
  match reply.exception with
  | some e => throw (.exception e)
  | none => return reply.value

instance : Session (WireSession π) where
  allThreads := ask .allThreads
  threadName t := ask (.threadName t)
  suspendThread t := ask (.suspendThread t)
  resumeThread t := ask (.resumeThread t)
  threadIsSuspended t := return (← ask (.threadStatus t)).isSuspended
  frames t := within (frames t)
  frameCount t := within (frameCount t)
  threadGroup t := ask (.threadGroup t)
  groupName g := ask (.groupName g)
  groupParent g := ask (.groupParent g)
  threadPriority t := within (priority t)
  ownedMonitors t := askIf (·.ownedMonitors) (.ownedMonitors t)
  contendedMonitor t := askIf (·.contendedMonitor) (.contendedMonitor t)
  createStepRequest r := within (requestStep r)
  createBreakpointRequest r := within (requestBreakpoint r)
  deleteEventRequest k r := ask (.clearRequest (eventKind k) r)
  accept _ := return true
  invoke i := within (invoke i)
  canPopFrames s := s.connection.capabilities.popFrames
  popFrames t f := askIf (·.popFrames) (.popFrames t f)
  forceReturn t := askIf (·.forceReturn) (.forceReturn t .void)
  frameVariable t f name := within (frameVariable t f name)
  requestTimeout s := s.connection.replyTimeout
  setRequestTimeout limit s := s.mapClient (·.mapConnection (·.perform (.setTimeout limit)))
  suspendVm := ask .suspendVm
  resumeVm := ask .resumeVm
  exitVm code := ask (.exitVm code)
  events s := s.events
  eventsClosed _ := false

end WireSession

end Debugger.Wire
