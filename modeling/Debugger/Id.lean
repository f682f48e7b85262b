/-! # Identifiers

The names by which a debugger and the virtual machine it controls refer to the machine's things.
They are opaque words of the machine's own width; only request numbers are signed.
-/

namespace Debugger

/-- A thread of the debugged machine. -/
abbrev ThreadId := UInt64

/-- A group of threads. -/
abbrev GroupId := UInt64

/-- A class, interface or array type. -/
abbrev TypeId := UInt64

/-- A method, unique within its class only. -/
abbrev MethodId := UInt64

/-- A field, unique within its class only. -/
abbrev FieldId := UInt64

/-- A frame of a suspended thread. -/
abbrev FrameId := UInt64

/-- An object on the machine's heap. -/
abbrev ObjectId := UInt64

/-- An event request, numbered by the machine. -/
abbrev RequestId := Int32

end Debugger
