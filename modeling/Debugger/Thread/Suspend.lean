import Debugger.Thread.Stepping

/-! # Suspending a thread

A suspend request aborts the pending step and leaves a task behind, the watch, which asks the machine
and then looks at the thread's status again and again until the machine confirms, time runs out, or the
client cancels.
-/

namespace Debugger

variable {σ : Type} [Session σ]

/-- Asks for a thread to be suspended: the watch that confirms it, or nothing while another watch does
so already. -/
def suspend (t : ThreadRef) : Client σ (Option Nat) := do
  act (abortStep t)
  if ((← get).thread t).suspending then return none
  modify (·.mapThread t fun th => { th with suspending := true })
  modifyGet fun s =>
    (some s.watches.size,
      { s with watches := s.watches.push ⟨t, .asking, false⟩ }.wake (.watch s.watches.size))

namespace Watch

/-- What the watch does next: it is over, or sleeps for so many milliseconds. -/
inductive Look where
  | over (result : Except DebugError SuspendOutcome)
  | sleep (deadline pause : Nat)

private def cancelledError : DebugError := .refused .cancelled "suspend cancelled"

/-- Looks at the thread's status once, with time until `deadline`. -/
def poll (id : ThreadId) (deadline : Nat) : Debug σ Look := do
  match ← ask (Session.threadIsSuspended id) with
  | .ok true => return .over (.ok .confirmed)
  | .error .disconnected => return .over (.ok .disconnected)
  | .error e => return .over (.error (.session "querying thread status" e))
  | .ok false =>
    let s ← get
    if s.now ≥ deadline then
      let text := "thread did not suspend within " ++ toString s.settings.suspendTimeout ++ " ms"
      modify fun s => { s with notices := s.notices ++ [(id, ⟨.suspendTimeout, text⟩)] }
      return .over (.ok .timedOut)
    else return .sleep deadline (min (max s.settings.suspendPoll 1) (deadline - s.now))

/-- One stretch of the watch's work. -/
def look (id : ThreadId) (cancelled : Bool) : WatchState → Debug σ Look
  | .done r => return .over r
  | .asking => do
    if cancelled then return .over (.error cancelledError)
    match ← ask (Session.suspendThread id) with
    | .ok () => poll id ((← get).now + (← get).settings.suspendTimeout)
    | .error .disconnected => return .over (.ok .disconnected)
    | .error e => return .over (.error (.session "suspending thread" e))
  | .polling deadline =>
    if cancelled then return .over (.error cancelledError) else poll id deadline

/-- What the end of a watch means for its thread. -/
def settle (t : ThreadRef) : Except DebugError SuspendOutcome → System σ → System σ
  | .ok .confirmed, s | .ok .timedOut, s =>
    (s.stopRunning t).fire (s.element t) (.suspend .clientRequest)
  | .ok .disconnected, s => s.bury t
  | .error _, s => s

end Watch

/-- Gives a new state to a watch. -/
def System.setWatch (s : System σ) (n : Nat) (state : WatchState) : System σ :=
  { s with watches := s.watches.modify n fun w => { w with state } }

/-- Runs a watch until it sleeps or is over. -/
def runWatch (n : Nat) : Debug σ Unit := do
  match (← get).watches[n]? with
  | none | some ⟨_, .done _, _⟩ => return
  | some w =>
    match ← Watch.look ((← get).thread w.thread).id w.cancelled w.state with
    | .sleep deadline pause =>
      modify fun s => { s.setWatch n (.polling deadline) with
        sleeping := s.sleeping ++ [(s.now + pause, .watch n)] }
    | .over result =>
      modify fun s => s.mapThread w.thread fun th => { th with suspending := false }
      modify (Watch.settle w.thread result)
      modify (·.setWatch n (.done result))

/-- Stops waiting for a confirmation. -/
def cancelWatch (n : Nat) : Debug σ Unit := do
  match (← get).watches[n]? with
  | none | some ⟨_, .done _, _⟩ => return
  | some _ =>
    modify fun s =>
      { s with
        watches := s.watches.modify n fun w => { w with cancelled := true }
        sleeping := s.sleeping.filter fun e => e.2 ≠ TaskId.watch n }.wake (.watch n)

/-- How the watch ended, if it is over. -/
def System.outcome? (s : System σ) (n : Nat) : Option (Except DebugError SuspendOutcome) :=
  s.watches[n]?.bind fun w => match w.state with
    | .done r => some r
    | _ => none

end Debugger
