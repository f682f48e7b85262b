import Debugger.Decimal.Binary
import Debugger.Value

/-! # Values in words -/

namespace Debugger.Value

/-- The value behind the name of its type. -/
def describe : Value → String
  | boolean v => "Boolean(" ++ toString v ++ ")"
  | byte v => "Byte(" ++ toString v ++ ")"
  | char v => "Char(" ++ toString v ++ ")"
  | short v => "Short(" ++ toString v ++ ")"
  | int v => "Int(" ++ toString v ++ ")"
  | long v => "Long(" ++ toString v ++ ")"
  | float bits => "Float(" ++ number .single 32 bits.toNat ++ ")"
  | double bits => "Double(" ++ number .double 64 bits.toNat ++ ")"
  | void => "Void"
  | object tag id => "Object \x7b tag: " ++ toString tag ++ ", id: " ++ toString id ++ " \x7d"
where
  number (f : Decimal.Format) (width bits : Nat) : String :=
    (Decimal.Binary.ofBits f width bits).text f .general

/-- The same for a value that may be missing. -/
def describe? (v : Option Value) : String := v.elim "None" fun v => "Some(" ++ v.describe ++ ")"

end Debugger.Value
