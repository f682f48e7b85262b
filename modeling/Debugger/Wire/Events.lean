import Debugger.Wire.Decode

/-! # Event packets

The machine sends events in packets: what it suspended, how many events there are, and each event with its
kind and its request.  Where an event of an unknown kind stands the rest of the packet cannot be read, but
the machine has suspended for it all the same, so the events before it are reported.
-/

namespace Debugger.Wire

open Decoder

/-- The body of an event of a known kind. -/
def eventBody? (s : IdSizes) (kind : UInt8) (request : RequestId) : Option (Decoder WireEvent) :=
  let stop (make : RequestId → ThreadId → CodePlace → WireEvent) : Decoder WireEvent := do
    let thread ← ident s.object
    return make request thread (← place s)
  if kind = EventKind.step then some (stop .step)
  else if kind = EventKind.breakpoint then some (stop .breakpoint)
  else if kind = EventKind.threadStart then some (.threadStart request <$> ident s.object)
  else if kind = EventKind.threadDeath then some (.threadDeath request <$> ident s.object)
  else if kind = EventKind.vmStart then some (.vmStart request <$> ident s.object)
  else if kind = EventKind.vmDeath then some (pure .vmDeath)
  else none

/-- At most `n` events, up to the first of an unknown kind. -/
def eventsUpTo (s : IdSizes) : (n : Nat) → Decoder (List WireEvent)
  | 0 => pure []
  | n + 1 => do
    let kind ← u8
    let request ← i32
    match eventBody? s kind request with
    | none => return []
    | some body =>
      let e ← body
      let es ← eventsUpTo s n
      return e :: es

/-- The contents of an event packet. -/
def eventSet (s : IdSizes) : Decoder WireEventSet := do
  let policy ← u8
  let n ← count
  return ⟨policy, ← eventsUpTo s n⟩

end Debugger.Wire
