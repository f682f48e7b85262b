import Debugger.Id

/-! # Values

A value as the debugged machine holds it.  Floating-point numbers are kept as their bits: a
debugger moves them about and never computes with them.
-/

namespace Debugger

/-- A primitive value, a reference, or the absence of a value. -/
inductive Value where
  | boolean (v : Bool)
  | byte (v : Int8)
  | char (v : UInt16)
  | short (v : Int16)
  | int (v : Int32)
  | long (v : Int64)
  | float (bits : UInt32)
  | double (bits : UInt64)
  | void
  | object (tag : UInt8) (id : ObjectId)
  deriving DecidableEq, Repr, Inhabited

namespace Value

/-- The letter that announces a value's type, as its character code. -/
def tag : Value → UInt8
  | boolean _ => 90
  | byte _ => 66
  | char _ => 67
  | short _ => 83
  | int _ => 73
  | long _ => 74
  | float _ => 70
  | double _ => 68
  | void => 86
  | object t _ => t

/-- Tag of a plain object reference. -/
def objectTag : UInt8 := 76

/-- Tag of an array reference. -/
def arrayTag : UInt8 := 91

/-- Tag of a reference to a string object. -/
def stringTag : UInt8 := 115

/-- The tags that announce a value which is no reference. -/
def primitiveTags : List UInt8 := [90, 66, 67, 83, 73, 74, 70, 68, 86]

end Value

end Debugger
