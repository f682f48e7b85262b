/-! # Broadcast channels

Every reader of a channel sees every message sent after it subscribed, in order, as long as it
keeps up: a channel holds a fixed number of messages, and a reader that fell further behind is
told how many it missed before it goes on with the oldest message still held.
-/

namespace Debugger

/-- All messages ever sent, of which the last `capacity` can still be read. -/
structure Channel (α : Type) where
  capacity : Nat
  log : Array α
  deriving Repr, Inhabited

/-- A reader's place: the number of messages it is done with. -/
structure Reader where
  next : Nat
  deriving DecidableEq, Repr, Inhabited

/-- What a reader gets: a message, or how many it missed. -/
inductive Received (α : Type) where
  | message (a : α)
  | lagged (missed : Nat)
  deriving DecidableEq, Repr

namespace Channel

variable {α : Type}

/-- Channels hold a power of two of messages, and at least one. -/
def new (capacity : Nat) : Channel α := ⟨(max capacity 1).nextPowerOfTwo, #[]⟩

def send (c : Channel α) (a : α) : Channel α := { c with log := c.log.push a }

/-- A new reader sees what is sent from now on. -/
def subscribe (c : Channel α) : Reader := ⟨c.log.size⟩

/-- The place of the oldest message still held. -/
def oldest (c : Channel α) : Nat := c.log.size - c.capacity

/-- Reads once, or nothing when the reader is up to date. -/
def receive? (c : Channel α) (r : Reader) : Option (Received α × Reader) :=
  if r.next < c.oldest then
    some (.lagged (c.oldest - r.next), ⟨c.oldest⟩)
  else
    c.log[r.next]?.map fun a => (.message a, ⟨r.next + 1⟩)

/-- Reads all that is there now. -/
def receiveAll (c : Channel α) (r : Reader) : List (Received α) × Reader :=
  let missed := if r.next < c.oldest then [.lagged (c.oldest - r.next)] else []
  (missed ++ (c.log.toList.drop (max r.next c.oldest)).map .message, c.subscribe)

@[simp] theorem log_send (c : Channel α) (a : α) : (c.send a).log = c.log.push a := rfl

@[simp] theorem capacity_send (c : Channel α) (a : α) : (c.send a).capacity = c.capacity := rfl

theorem receive?_subscribe (c : Channel α) : c.receive? c.subscribe = none := by
  simp [receive?, subscribe, oldest]

/-- A reader that is up to date gets the next message sent. -/
theorem receive?_send (c : Channel α) (a : α) (h : 0 < c.capacity) :
    (c.send a).receive? c.subscribe = some (.message a, (c.send a).subscribe) := by
  have : ¬ c.log.size < c.log.size + 1 - c.capacity := by omega
  simp [receive?, subscribe, oldest, this]

end Channel

end Debugger
