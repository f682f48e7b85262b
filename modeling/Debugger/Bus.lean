import Debugger.Channel
import Debugger.DebugEvent

/-! # The event bus

Debug events are fired at once or queued.  Queued events go out at the next flush, which the
debugger does once the machine's event set being dispatched has been handled whole.
-/

namespace Debugger

/-- The way from the debugger's elements to its observers. -/
structure Bus where
  channel : Channel DebugEvent
  queued : List DebugEvent
  deriving Repr, Inhabited

namespace Bus

def new (capacity : Nat) : Bus := ⟨.new capacity, []⟩

/-- The number of events a bus holds for an observer that is late. -/
def defaultCapacity : Nat := 256

def subscribe (b : Bus) : Reader := b.channel.subscribe

def fire (b : Bus) (e : DebugEvent) : Bus := { b with channel := b.channel.send e }

def queue (b : Bus) (e : DebugEvent) : Bus := { b with queued := b.queued ++ [e] }

/-- Fires every queued event in order. -/
def flush (b : Bus) : Bus := b.queued.foldl fire { b with queued := [] }

/-- The events published so far, in order. -/
def published (b : Bus) : List DebugEvent := b.channel.log.toList

@[simp] theorem published_fire (b : Bus) (e : DebugEvent) :
    (b.fire e).published = b.published ++ [e] := by
  simp [published, fire, Channel.send]

@[simp] theorem queued_fire (b : Bus) (e : DebugEvent) : (b.fire e).queued = b.queued := rfl

@[simp] theorem published_queue (b : Bus) (e : DebugEvent) :
    (b.queue e).published = b.published := rfl

@[simp] theorem queued_queue (b : Bus) (e : DebugEvent) :
    (b.queue e).queued = b.queued ++ [e] := rfl

private theorem published_foldl (es : List DebugEvent) (b : Bus) :
    (es.foldl fire b).published = b.published ++ es := by
  induction es generalizing b with
  | nil => simp
  | cons e es ih => simp [ih]

private theorem queued_foldl (es : List DebugEvent) (b : Bus) :
    (es.foldl fire b).queued = b.queued := by
  induction es generalizing b with
  | nil => rfl
  | cons e es ih => simp [ih]

@[simp] theorem published_flush (b : Bus) : b.flush.published = b.published ++ b.queued := by
  rw [flush, published_foldl]
  rfl

@[simp] theorem queued_flush (b : Bus) : b.flush.queued = [] := by
  simp [flush, queued_foldl]

end Bus

/-- The messages an element publishes about itself. -/
inductive Announcement where
  | create
  | resume (detail : EventDetail)
  | suspend (detail : EventDetail)
  | change (detail : EventDetail)
  | terminate
  deriving DecidableEq, Repr

namespace Announcement

/-- The debug event that carries the announcement of `source`. -/
def event (source : Element) : Announcement → DebugEvent
  | create => ⟨source, .create, .unspecified⟩
  | resume detail => ⟨source, .resume, detail⟩
  | suspend detail => ⟨source, .suspend, detail⟩
  | change detail => ⟨source, .change, detail⟩
  | terminate => ⟨source, .terminate, .unspecified⟩

end Announcement

end Debugger
