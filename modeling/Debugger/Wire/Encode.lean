import Debugger.Text.Utf8
import Debugger.Wire.Bytes
import Debugger.Wire.Data

/-! # Writing

The bytes of what is sent.  An identifier is cut to the size of its kind.
-/

namespace Debugger.Wire.Encode

def u8 (v : UInt8) : Bytes := [v]

def bool (b : Bool) : Bytes := [if b then 1 else 0]

def u16 (v : UInt16) : Bytes := .ofNat 2 v.toNat

def u32 (v : UInt32) : Bytes := .ofNat 4 v.toNat

def i32 (v : Int32) : Bytes := u32 v.toUInt32

def u64 (v : UInt64) : Bytes := .ofNat 8 v.toNat

def i64 (v : Int64) : Bytes := u64 v.toUInt64

/-- How many there are of something. -/
def count (n : Nat) : Bytes := u32 (.ofNat n)

def text (s : String) : Bytes :=
  let bytes := Text.Utf8.encode s
  count bytes.length ++ bytes

/-- The low `size` bytes of an identifier, but at least one and at most all eight. -/
def ident (size : Nat) (v : UInt64) : Bytes := .ofNat (max 1 (min size 8)) v.toNat

def list {α : Type} (f : α → Bytes) (l : List α) : Bytes := count l.length ++ l.flatMap f

/-- The sizes of identifiers themselves. -/
def sizes (s : IdSizes) : Bytes := [s.field, s.method, s.object, s.type, s.frame].flatMap count

def place (s : IdSizes) (p : CodePlace) : Bytes :=
  u8 p.typeTag ++ ident s.type p.type ++ ident s.method p.method ++ u64 p.index

/-- A value whose type the reader knows. -/
def untagged (s : IdSizes) : Value → Bytes
  | .boolean v => bool v
  | .byte v => u8 v.toUInt8
  | .char v => u16 v
  | .short v => u16 v.toUInt16
  | .int v => i32 v
  | .long v => i64 v
  | .float v => u32 v
  | .double v => u64 v
  | .void => []
  | .object _ v => ident s.object v

/-- A value with the tag of its type. -/
def value (s : IdSizes) (v : Value) : Bytes := u8 v.tag ++ untagged s v

def modifier (s : IdSizes) (m : EventModifier) : Bytes :=
  u8 m.kind ++ match m with
  | .count n => u32 n
  | .thread t => ident s.object t
  | .classMatch p | .classExclude p => text p
  | .location p => place s p
  | .step t size depth => ident s.object t ++ u32 size ++ u32 depth

end Debugger.Wire.Encode
