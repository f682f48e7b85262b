import Debugger.Code

/-! # What travels on the wire

Identifiers have as many bytes as the machine says, so whatever holds one is written and read by the same
sizes.
-/

namespace Debugger.Wire

/-- How many bytes each kind of identifier has. -/
structure IdSizes where
  field : Nat := 8
  method : Nat := 8
  object : Nat := 8
  type : Nat := 8
  frame : Nat := 8
  deriving DecidableEq, Repr, Inhabited

/-- What the machine can do, as far as the debugger cares. -/
structure Capabilities where
  synthetic : Bool := false
  ownedMonitors : Bool := false
  contendedMonitor : Bool := false
  popFrames : Bool := false
  forceReturn : Bool := false
  deriving DecidableEq, Repr, Inhabited

/-- The capabilities among the machine's flags; a flag that is not sent is off. -/
def Capabilities.ofFlags (flags : List Bool) : Capabilities :=
  let flag (i : Nat) : Bool := flags[i]?.getD false
  { synthetic := flag 3
    ownedMonitors := flag 4
    contendedMonitor := flag 5
    popFrames := flag 10
    forceReturn := flag 20 }

/-- A place in a method, by numbers alone. -/
structure CodePlace where
  typeTag : UInt8
  type : TypeId
  method : MethodId
  index : UInt64
  deriving DecidableEq, Repr, Inhabited

structure FrameEntry where
  id : FrameId
  place : CodePlace
  deriving DecidableEq, Repr, Inhabited

/-- A loaded type. -/
structure LoadedType where
  tag : UInt8
  type : TypeId
  signature : String
  status : UInt32
  deriving DecidableEq, Repr, Inhabited

/-- A field or a method of a type. -/
structure Member where
  id : UInt64
  name : String
  signature : String
  modifiers : UInt32
  deriving DecidableEq, Repr, Inhabited

/-- An entry of a line table: a line begins at a code index. -/
structure LineEntry where
  index : UInt64
  line : Int32
  deriving DecidableEq, Repr, Inhabited

/-- Which line each part of a method's code belongs to. -/
structure LineTable where
  start : UInt64
  stop : UInt64
  lines : List LineEntry
  deriving DecidableEq, Repr, Inhabited

namespace LineTable

/-- The entry that begins last; of several that begin there, the last in the table. -/
def latest (es : List LineEntry) : Option LineEntry :=
  es.foldl (fun best e => match best with
    | some b => if b.index ≤ e.index then some e else some b
    | none => some e) none

/-- The line of the closest entry at or before the index. -/
def lineAt? (t : LineTable) (index : UInt64) : Option Int32 :=
  (latest (t.lines.filter fun e => e.index ≤ index)).map (·.line)

/-- The lowest code index of a line. -/
def firstIndexOf? (t : LineTable) (line : Int32) : Option UInt64 :=
  ((t.lines.filter fun e => e.line = line).map (·.index)).min?

end LineTable

/-- A local variable, the stretch of code in which it exists, and where its value is kept. -/
structure VariableEntry where
  index : UInt64
  name : String
  signature : String
  length : UInt32
  slot : UInt32
  deriving DecidableEq, Repr, Inhabited

/-- Whether the variable exists at a code index.  The end of its stretch is a code index too, so one past
the last code index is the first again. -/
def VariableEntry.inScope (v : VariableEntry) (index : UInt64) : Bool :=
  v.index ≤ index && index < v.index + v.length.toUInt64

/-- A thread's state. -/
structure ThreadStatus where
  status : Int32
  suspend : Int32
  deriving DecidableEq, Repr, Inhabited

def ThreadStatus.isSuspended (s : ThreadStatus) : Bool := s.suspend &&& 1 != 0

/-- What an invocation gave. -/
structure InvokeReply where
  value : Value
  /-- The exception that was thrown. -/
  exception : Option ObjectId
  deriving DecidableEq, Repr, Inhabited

/-- A condition on the events that a request reports. -/
inductive EventModifier where
  | count (n : UInt32)
  | thread (t : ThreadId)
  | classMatch (pattern : String)
  | classExclude (pattern : String)
  | location (place : CodePlace)
  | step (thread : ThreadId) (size depth : UInt32)
  deriving DecidableEq, Repr, Inhabited

/-- The number that announces a modifier. -/
def EventModifier.kind : EventModifier → UInt8
  | count _ => 1
  | thread _ => 3
  | classMatch _ => 5
  | classExclude _ => 6
  | location _ => 7
  | step .. => 10

/-- An event as the machine sends it. -/
inductive WireEvent where
  | step (request : RequestId) (thread : ThreadId) (place : CodePlace)
  | breakpoint (request : RequestId) (thread : ThreadId) (place : CodePlace)
  | threadStart (request : RequestId) (thread : ThreadId)
  | threadDeath (request : RequestId) (thread : ThreadId)
  | vmStart (request : RequestId) (thread : ThreadId)
  | vmDeath
  deriving DecidableEq, Repr, Inhabited

/-- Events that were sent in one packet; the machine suspended once for all of them. -/
structure WireEventSet where
  policy : UInt8
  events : List WireEvent
  deriving DecidableEq, Repr, Inhabited

/-! ### Numbers of the protocol -/

namespace EventKind

def step : UInt8 := 1
def breakpoint : UInt8 := 2
def threadStart : UInt8 := 6
def threadDeath : UInt8 := 7
def vmStart : UInt8 := 90
def vmDeath : UInt8 := 99

end EventKind

namespace Policy

def thread : UInt8 := 1
def all : UInt8 := 2

end Policy

end Debugger.Wire
