import Debugger.Value

/-! # Methods, locations and frames

Places in the debugged program's code, as the machine reports them.
-/

namespace Debugger

/-- Names a method independently of any frame. -/
structure MethodRef where
  type : TypeId
  method : MethodId
  deriving DecidableEq, Repr, Inhabited

/-- A method together with what filters and displays need to know of it. -/
structure Method where
  id : MethodRef
  name : String
  /-- The fully qualified name of the type that declares it. -/
  declaringType : String
  signature : String
  modifiers : UInt32
  deriving DecidableEq, Repr, Inhabited

/-- Modifier bit of static members. -/
def staticModifier : UInt32 := 0x0008

/-- Modifier bit of members that the compiler made up. -/
def syntheticModifier : UInt32 := 0x1000

namespace Method

def isConstructor (m : Method) : Bool := m.name == "<init>"

def isStaticInitializer (m : Method) : Bool := m.name == "<clinit>"

def isSynthetic (m : Method) : Bool := m.modifiers &&& syntheticModifier != 0

def isStatic (m : Method) : Bool := m.modifiers &&& staticModifier != 0

end Method

/-- A place in a method; classes without line information have no line. -/
structure Location where
  method : Method
  codeIndex : UInt64
  line : Option Int32
  deriving DecidableEq, Repr, Inhabited

/-- Same method and same line; the code index may differ. -/
def Location.sameLine (a b : Location) : Bool := a.method.id == b.method.id && a.line == b.line

/-- A frame as the machine reports it now, good only while its thread stays suspended. -/
structure RemoteFrame where
  id : FrameId
  location : Location
  deriving DecidableEq, Repr, Inhabited

/-- A local variable with its current value. -/
structure Variable where
  name : String
  signature : String
  value : Value
  deriving DecidableEq, Repr, Inhabited

end Debugger
