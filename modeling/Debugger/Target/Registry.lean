import Debugger.Thread.Resume

/-! # The thread registry

The target lists the threads of the machine in the order in which it learned of them.  Threads below the
group named `main` belong to the program; those of other groups belong to the machine itself.
-/

namespace Debugger

/-- The group that holds the program's threads. -/
def mainGroup : String := "main"

variable {σ : Type} [Session σ]

/-- Goes from a group towards its outermost one: `true` if no group on the way bears the main group's
name, and nothing if the way is longer than `fuel`. -/
def outsideMain : Nat → Option GroupId → Call σ (Option Bool)
  | _, none => return some true
  | 0, some _ => return none
  | fuel + 1, some group => do
    if (← Session.groupName group) = mainGroup then return some false
    outsideMain fuel (← Session.groupParent group)

/-- There are no more groups than group numbers, so a longer way goes in a circle. -/
def groupLimit : Nat := UInt64.size

/-- Whether the thread belongs to the machine itself: it has a group, which is not inside the main
group.  A thread whose groups go in a circle has no answer and counts as the program's. -/
def isSystemThread (thread : ThreadId) : Call σ Bool := do
  let group ← Session.threadGroup thread
  if group.isNone then return false
  return (← outsideMain groupLimit group).getD false

/-- A thread object for a thread that the target does not list yet.  One that is created while the
machine goes away is dead from the start. -/
def createThread (id : ThreadId) : Debug σ ThreadRef := do
  let system ← ask (isSystemThread id)
  let suspended ← ask (Session.threadIsSuspended id)
  let gone {α : Type} : Except SessionError α → Bool
    | .error e => e.isDisconnect
    | .ok _ => false
  let terminated := gone system || gone suspended
  let running := match suspended with
    | .ok b => !b
    | .error _ => true
  let th : Thread :=
    { id
      running := running && !terminated
      terminated
      system := match system with
        | .ok b => b
        | .error _ => false }
  modifyGet fun s => (s.threads.size, { s with threads := s.threads.push th })

/-- The listed thread of that number, which is created and announced if need be. -/
def addThread (id : ThreadId) : Debug σ ThreadRef := do
  match (← get).find? id with
  | some t => return t
  | none =>
    let t ← createThread id
    modify fun s => { s with registry := s.registry ++ [t] }.fire (.thread id) .create
    return t

/-- The listed thread of that number died: its steps are over and it is listed no more. -/
def System.threadDied (s : System σ) (id : ThreadId) : System σ :=
  let s := { s with stepOwners := s.stepOwners.keep fun _ owner => owner ≠ id }
  match s.find? id with
  | none => s
  | some t => { s with registry := s.registry.erase t }.bury t

end Debugger
