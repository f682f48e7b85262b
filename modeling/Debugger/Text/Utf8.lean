/-! # Texts as bytes

The UTF-8 encoding, with an account of the first place at which bytes are no text.
-/

namespace Debugger.Text.Utf8

def encode (s : String) : List UInt8 := s.toUTF8.data.toList

/-- The text that the bytes encode, if they do. -/
def decode? (bytes : List UInt8) : Option String := String.fromUTF8? ⟨bytes.toArray⟩

@[simp] theorem decode?_encode (s : String) : decode? (encode s) = some s := by
  simp [decode?, encode, String.fromUTF8?, String.fromUTF8, s.isValidUTF8]

/-- What bytes begin with. -/
inductive Front where
  /-- A character in so many bytes. -/
  | char (c : Char) (size : Nat)
  /-- So many bytes that no character begins with. -/
  | invalid (size : Nat)
  /-- The bytes end inside a character. -/
  | incomplete
  deriving Repr, Inhabited

/-- The low six bits of a byte that goes on with a character. -/
private def continuation? (b : UInt8) : Option Nat :=
  if 0x80 ≤ b && b ≤ 0xbf then some (b.toNat - 0x80) else none

/-- Which second bytes can follow a first byte. -/
private def secondRange (b : UInt8) : UInt8 × UInt8 :=
  if b = 0xe0 then (0xa0, 0xbf)
  else if b = 0xed then (0x80, 0x9f)
  else if b = 0xf0 then (0x90, 0xbf)
  else if b = 0xf4 then (0x80, 0x8f)
  else (0x80, 0xbf)

/-- Reads `more` further bytes of a character of which `size` bytes are read, with the bits `n`. -/
private def finish (n size : Nat) : (more : Nat) → List UInt8 → Front
  | 0, _ => .char (Char.ofNat n) size
  | _ + 1, [] => .incomplete
  | more + 1, b :: bytes =>
    match continuation? b with
    | some bits => finish (n * 64 + bits) (size + 1) more bytes
    | none => .invalid size

/-- Reads a character of `more` + 1 bytes that begins with `b` and the bits `n`. -/
private def long (b : UInt8) (n more : Nat) : List UInt8 → Front
  | [] => .incomplete
  | c :: bytes =>
    let (low, high) := secondRange b
    if low ≤ c && c ≤ high then finish (n * 64 + (c.toNat - 0x80)) 2 (more - 1) bytes else .invalid 1

/-- What the bytes `b :: rest` begin with. -/
def front (b : UInt8) (rest : List UInt8) : Front :=
  if b < 0x80 then .char (Char.ofNat b.toNat) 1
  else if b < 0xc2 then .invalid 1
  else if b < 0xe0 then long b (b.toNat - 0xc0) 1 rest
  else if b < 0xf0 then long b (b.toNat - 0xe0) 2 rest
  else if b < 0xf5 then long b (b.toNat - 0xf0) 3 rest
  else .invalid 1

/-- The first place at which bytes are no text. -/
inductive Fault where
  | invalid (index size : Nat)
  | incomplete (index : Nat)
  deriving DecidableEq, Repr, Inhabited

def Fault.message : Fault → String
  | invalid index size =>
    "invalid utf-8 sequence of " ++ toString size ++ " bytes from index " ++ toString index
  | incomplete index => "incomplete utf-8 byte sequence from index " ++ toString index

/-- Looks for the fault from `index` on, through at most `fuel` characters. -/
private def faultFrom : (fuel index : Nat) → List UInt8 → Option Fault
  | 0, _, _ => none
  | _ + 1, _, [] => none
  | fuel + 1, index, b :: rest =>
    match front b rest with
    | .char _ size => faultFrom fuel (index + size) (rest.drop (size - 1))
    | .invalid size => some (.invalid index size)
    | .incomplete => some (.incomplete index)

/-- The first fault. -/
def fault? (bytes : List UInt8) : Option Fault := faultFrom bytes.length 0 bytes

private def lossyFrom : (fuel : Nat) → List UInt8 → List Char
  | 0, _ => []
  | _ + 1, [] => []
  | fuel + 1, b :: rest =>
    match front b rest with
    | .char c size => c :: lossyFrom fuel (rest.drop (size - 1))
    | .invalid size => '\ufffd' :: lossyFrom fuel (rest.drop (size - 1))
    | .incomplete => ['\ufffd']

/-- The text with a mark in the place of every fault. -/
def lossy (bytes : List UInt8) : String := String.ofList (lossyFrom bytes.length bytes)

end Debugger.Text.Utf8
