import Debugger.Thread.Stepping

/-! # Invoking methods

An invocation runs in a suspended thread, which counts as running meanwhile, and takes as long as it
takes: while any thread invokes, requests to the machine have no timeout.  The client only waits for the
task that makes the call; the task goes on and restores the thread even if no one waits any more.
-/

namespace Debugger

variable {σ : Type} [Session σ]

/-- An invocation begins; the first one of several lifts the request timeout. -/
def System.liftTimeout (s : System σ) : System σ :=
  let s := { s with activeInvocations := s.activeInvocations + 1 }
  if s.activeInvocations = 1 then
    { s with
      savedTimeout := Session.requestTimeout s.session
      session := Session.setRequestTimeout none s.session }
  else s

/-- An invocation ends; the last one puts the request timeout back.  Dispatch stops with it if the
client has let go of the target meanwhile. -/
def System.restoreTimeout (s : System σ) : System σ :=
  let s := { s with activeInvocations := s.activeInvocations - 1 }
  if s.activeInvocations = 0 then
    let s := { s with
      savedTimeout := none
      session := Session.setRequestTimeout s.savedTimeout s.session }
    if s.released then { s with shutdown := true, dispatching := false } else s
  else s

/-- Starts an invocation, and gives the task that carries it out. -/
def beginInvocation (t : ThreadRef) (target : InvokeTarget) (method : MethodRef) (args : List Value)
    (nonvirtual : Bool) : Client σ Nat := do
  needTarget
  let th := (← get).thread t
  if th.invoking then throw .nested
  unless th.isSuspended do throw .evaluationNotSuspended
  modify fun s => (s.mapThread t fun th => { th with invoking := true }).startRunning t
  modify (·.liftTimeout)
  let call : Invocation := ⟨th.id, target, method, args, ⟨true, nonvirtual⟩⟩
  modifyGet fun s =>
    (s.invocations.size,
      { s with invocations := s.invocations.push ⟨t, call, .calling⟩ }.wake
        (.invocation s.invocations.size))

/-- The call is over: the thread is suspended again and its stack is looked at. -/
def restoreThread (t : ThreadRef) : Debug σ Unit := do
  abortStep t
  modify fun s => (s.stopRunning t).mapThread t fun th => { th with invoking := false }
  modify (·.restoreTimeout)
  let _ ← attempt (stackFrames t)

def System.setInvocation (s : System σ) (n : Nat) (state : InvocationState) : System σ :=
  { s with invocations := s.invocations.modify n fun i => { i with state } }

/-- Makes the call as far as the machine lets it in: its result, or nothing while it is held back. -/
def advanceCall (call : Invocation) (state : InvocationState) :
    Debug σ (Option (Except SessionError Value)) :=
  match state with
  | .done r => return some r
  | .held => return none
  | .letIn => some <$> ask (Session.invoke call)
  | .calling => do
    match ← ask (Session.accept call) with
    | .error e => return some (.error e)
    | .ok false => return none
    | .ok true => some <$> ask (Session.invoke call)

/-- The evaluations that pass the test can go on. -/
def System.wakeEvaluations (s : System σ) (p : EvaluationTask → Bool) : System σ :=
  (List.range s.evaluations.size).foldl (fun s k =>
    if s.evaluations[k]?.any p then s.wake (.evaluation k) else s) s

/-- Runs an invocation until it is held back or over; what waits for it can go on then. -/
def runInvocation (n : Nat) : Debug σ Unit := do
  match (← get).invocations[n]? with
  | none | some ⟨_, _, .done _⟩ => return
  | some i =>
    match ← advanceCall i.call i.state with
    | none => modify (·.setInvocation n .held)
    | some result =>
      restoreThread i.thread
      modify (·.setInvocation n (.done result))
      modify (·.wakeEvaluations fun e => match e.state with
        | .invoking m => m = n
        | _ => false)

/-- Lets the invocation in that was held back first; tells whether there was one. -/
def letInHeld : Debug σ Bool := do
  let s ← get
  match s.invocations.findIdx? fun i => i.state matches .held with
  | none => return false
  | some n =>
    modify fun s => (s.setInvocation n .letIn).wake (.invocation n)
    return true

/-- What a failed invocation is reported as. -/
def invocationError : SessionError → DebugError
  | .incompatibleThreadState =>
    .session "thread must be suspended by a step or breakpoint to invoke a method"
      .incompatibleThreadState
  | e => .session "invoking method" e

/-- The result of the invocation, once it is over. -/
def System.invocation? (s : System σ) (n : Nat) : Option (Except DebugError Value) :=
  s.invocations[n]?.bind fun i => match i.state with
    | .done r => some (r.mapError invocationError)
    | _ => none

end Debugger
