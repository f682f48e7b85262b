import Debugger.Wire.Bytes
import Debugger.Wire.Data
import Debugger.Wire.Error

/-! # Reading

A decoder takes something off the front of a packet, or tells where the packet is at fault.
-/

namespace Debugger.Wire

/-- A place in a packet: how many bytes are before it, and those that follow. -/
structure Cursor where
  offset : Nat
  rest : Bytes
  deriving DecidableEq, Repr, Inhabited

/-- Takes something off the front of a packet. -/
abbrev Decoder (α : Type) := StateT Cursor (Except Malformed) α

namespace Decoder

variable {α : Type}

/-- Exactly `n` bytes. -/
def take (n : Nat) : Decoder Bytes := fun c =>
  if n ≤ c.rest.length then .ok (c.rest.take n, ⟨c.offset + n, c.rest.drop n⟩)
  else .error (.underflow n c.offset (c.offset + c.rest.length))

/-- A number of `n` bytes. -/
def number (n : Nat) : Decoder Nat := do return (← take n).toNat

def u8 : Decoder UInt8 := UInt8.ofNat <$> number 1

def bool : Decoder Bool := (· != 0) <$> u8

def u16 : Decoder UInt16 := UInt16.ofNat <$> number 2

def u32 : Decoder UInt32 := UInt32.ofNat <$> number 4

def i32 : Decoder Int32 := UInt32.toInt32 <$> u32

def u64 : Decoder UInt64 := UInt64.ofNat <$> number 8

def i64 : Decoder Int64 := UInt64.toInt64 <$> u64

/-- How many there are of something. -/
def count : Decoder Nat := UInt32.toNat <$> u32

def text : Decoder String := do
  let bytes ← take (← count)
  match Text.Utf8.decode? bytes with
  | some s => return s
  | none => throw (.notText ((Text.Utf8.fault? bytes).getD (.incomplete bytes.length)))

/-- An identifier of a kind that has `size` bytes. -/
def ident (size : Nat) : Decoder UInt64 := do
  if size = 0 ∨ size > 8 then throw (.idSize size)
  UInt64.ofNat <$> number size

/-- So many of something. -/
def times (d : Decoder α) : Nat → Decoder (List α)
  | 0 => pure []
  | n + 1 => do
    let a ← d
    let as ← times d n
    return a :: as

/-- A number, and then that many of something. -/
def list (d : Decoder α) : Decoder (List α) := do times d (← count)

/-- All that is left, in pieces of at least one byte. -/
def all (d : Decoder α) : Decoder (List α) := do
  let rec go : Nat → Decoder (List α)
    | 0 => pure []
    | n + 1 => do
      if (← get).rest.isEmpty then return []
      let a ← d
      let as ← go n
      return a :: as
  go (← get).rest.length

/-- An identifier where zero stands for nothing. -/
def ident? (size : Nat) : Decoder (Option UInt64) := do
  let v ← ident size
  return if v = 0 then none else some v

def place (s : IdSizes) : Decoder CodePlace := do
  let typeTag ← u8
  let type ← ident s.type
  let method ← ident s.method
  let index ← u64
  return { typeTag, type, method, index }

/-- A value of the type that the tag announces; any other tag announces a reference. -/
def untagged (s : IdSizes) (tag : UInt8) : Decoder Value :=
  match tag.toNat with
  | 90 => .boolean <$> bool
  | 66 => (fun v => .byte v.toInt8) <$> u8
  | 67 => .char <$> u16
  | 83 => (fun v => .short v.toInt16) <$> u16
  | 73 => .int <$> i32
  | 74 => .long <$> i64
  | 70 => .float <$> u32
  | 68 => .double <$> u64
  | 86 => pure .void
  | _ => .object tag <$> ident s.object

def value (s : IdSizes) : Decoder Value := do untagged s (← u8)

/-- An object behind the tag of its type. -/
def taggedObject (s : IdSizes) : Decoder ObjectId := do
  let _ ← u8
  ident s.object

/-- The same where zero stands for nothing. -/
def taggedObject? (s : IdSizes) : Decoder (Option ObjectId) := do
  let _ ← u8
  ident? s.object

/-- Reads a packet from its start; what is left over does not count. -/
def run (d : Decoder α) (bytes : Bytes) : Except Malformed α := (d ⟨0, bytes⟩).map (·.1)

end Decoder

end Debugger.Wire
