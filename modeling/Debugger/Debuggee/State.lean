import Debugger.Wire.Data

/-! # A debuggee

A small machine at the far end of a connection: one thread of the program, suspended two frames deep in a
class of two methods, and one thread of the machine's own.  It keeps what it was asked for.
-/

namespace Debugger

open Wire

namespace Debuggee

/-- A method with its line table: where in the code each line begins. -/
structure CodeEntry where
  id : MethodId
  name : String
  signature : String
  modifiers : UInt32
  lines : List LineEntry
  deriving DecidableEq, Repr, Inhabited

structure ClassEntry where
  id : TypeId
  signature : String
  methods : List CodeEntry
  deriving DecidableEq, Repr, Inhabited

/-- A thread, which is suspended while its count is not zero. -/
structure ThreadEntry where
  id : ThreadId
  name : String
  group : GroupId
  suspendCount : Nat
  /-- The stack, top first. -/
  frames : List FrameEntry
  deriving DecidableEq, Repr, Inhabited

structure GroupEntry where
  id : GroupId
  name : String
  /-- Zero for an outermost group. -/
  parent : GroupId
  deriving DecidableEq, Repr, Inhabited

/-- What a step request asks for. -/
structure StepOrder where
  thread : ThreadId
  size : UInt32
  depth : UInt32
  deriving DecidableEq, Repr, Inhabited

/-- An event request.  Of conditions that may be given once, the last one given counts. -/
structure RequestEntry where
  id : RequestId
  kind : UInt8
  policy : UInt8
  /-- The kinds of all conditions, in the order in which they were given. -/
  modifiers : List UInt8 := []
  count : Option UInt32 := none
  step : Option StepOrder := none
  exclusions : List String := []
  place : Option CodePlace := none
  deriving DecidableEq, Repr, Inhabited

/-- An invocation that was asked for. -/
structure InvocationEntry where
  set : UInt8
  number : UInt8
  method : MethodId
  args : List Value
  options : UInt32
  deriving DecidableEq, Repr, Inhabited

end Debuggee

open Debuggee in
/-- The state of a debuggee. -/
structure Debuggee where
  sizes : IdSizes := {}
  capabilities : List Bool
  threads : List ThreadEntry
  groups : List GroupEntry
  classes : List ClassEntry
  nextRequest : RequestId := 1
  /-- The number of the last packet of its own. -/
  lastPacket : UInt32 := 0x40000000
  requests : List RequestEntry := []
  /-- Steps that begin when their thread is resumed. -/
  armed : List (RequestId × ThreadId) := []
  cleared : List (UInt8 × RequestId) := []
  invocations : List InvocationEntry := []
  popped : List FrameId := []
  threadResumes : Nat := 0
  vmResumes : Nat := 0
  /-- An event of this kind stands in front of the next stop that is reported. -/
  unknownEvent : Option UInt8 := none
  deriving Inhabited

namespace Debuggee

/-- The flags of a machine that knows about monitors, pops frames and forces returns. -/
def usualCapabilities : List Bool := (List.range 32).map fun i => [4, 5, 10, 20].contains i

/-! ### What every debuggee begins with -/

def mainThread : ThreadId := 1

def systemThread : ThreadId := 2

def mainGroup : GroupId := 100

def systemGroup : GroupId := 101

def mainClass : TypeId := 10

def threadClass : TypeId := 11

def mainMethod : MethodId := 20

def helperMethod : MethodId := 21

/-- The field of a thread object that holds its priority. -/
def priorityField : FieldId := 500

/-- The tag of types that are classes. -/
def classTag : UInt8 := 1

private def place (method : MethodId) (index : UInt64) : CodePlace :=
  ⟨classTag, mainClass, method, index⟩

/-- A debuggee that has just been started. -/
def start (sizes : IdSizes) (capabilities : List Bool) : Debuggee :=
  { sizes
    capabilities
    threads :=
      [⟨mainThread, "main", mainGroup, 1, [⟨1000, place helperMethod 0⟩, ⟨1001, place mainMethod 4⟩]⟩,
        ⟨systemThread, "Reference Handler", systemGroup, 0, []⟩]
    groups := [⟨mainGroup, "main", systemGroup⟩, ⟨systemGroup, "system", 0⟩]
    classes :=
      [⟨mainClass, "Lcom/example/Main;",
          [⟨mainMethod, "main", "([Ljava/lang/String;)V", 0x0009, [⟨0, 10⟩, ⟨4, 11⟩, ⟨8, 12⟩]⟩,
            ⟨helperMethod, "helper", "()V", 0x0002, [⟨0, 20⟩, ⟨3, 21⟩, ⟨6, 22⟩]⟩]⟩,
        ⟨threadClass, "Ljava/lang/Thread;", []⟩] }

/-! ### Looking up and changing -/

def thread? (d : Debuggee) (id : ThreadId) : Option ThreadEntry := d.threads.find? (·.id = id)

def group? (d : Debuggee) (id : GroupId) : Option GroupEntry := d.groups.find? (·.id = id)

def class? (d : Debuggee) (id : TypeId) : Option ClassEntry := d.classes.find? (·.id = id)

def method? (d : Debuggee) (type : TypeId) (method : MethodId) : Option CodeEntry :=
  (d.class? type).bind (·.methods.find? (·.id = method))

/-- Changes the thread of that number. -/
def mapThread (d : Debuggee) (id : ThreadId) (f : ThreadEntry → ThreadEntry) : Debuggee :=
  { d with threads := d.threads.map fun t => if t.id = id then f t else t }

def ThreadEntry.isSuspended (t : ThreadEntry) : Bool := t.suspendCount > 0

def ThreadEntry.suspend (t : ThreadEntry) : ThreadEntry := { t with suspendCount := t.suspendCount + 1 }

/-- One suspension less, if there is one. -/
def ThreadEntry.resume (t : ThreadEntry) : ThreadEntry := { t with suspendCount := t.suspendCount - 1 }

end Debuggee

end Debugger
