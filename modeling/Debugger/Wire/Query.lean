import Debugger.Request
import Debugger.Wire.Decode
import Debugger.Wire.Encode
import Debugger.Wire.Signature

/-! # Queries

What can be asked of the machine: each query is a command, its payload, and what its reply says.  Both
depend on the sizes of identifiers.
-/

namespace Debugger.Wire

/-- Something to ask of the machine. -/
structure Query (α : Type) where
  set : UInt8
  number : UInt8
  payload : IdSizes → Bytes
  reply : IdSizes → Decoder α

namespace Query

open Decoder

private def nothing (_ : IdSizes) : Bytes := []

private def done (_ : IdSizes) : Decoder Unit := pure ()

private def object (v : ObjectId) (s : IdSizes) : Bytes := Encode.ident s.object v

private def type (v : TypeId) (s : IdSizes) : Bytes := Encode.ident s.type v

private def method (t : TypeId) (m : MethodId) (s : IdSizes) : Bytes :=
  Encode.ident s.type t ++ Encode.ident s.method m

/-! ### The machine -/

def loadedTypes (signature : String) : Query (List LoadedType) where
  set := 1
  number := 2
  payload _ := Encode.text signature
  reply s := list do
    let tag ← u8
    let type ← ident s.type
    return { tag, type, signature, status := ← u32 }

def allThreads : Query (List ThreadId) := ⟨1, 4, nothing, fun s => list (ident s.object)⟩

def idSizes : Query IdSizes where
  set := 1
  number := 7
  payload := nothing
  reply _ := do
    let field ← count
    let method ← count
    let object ← count
    let type ← count
    let frame ← count
    return { field, method, object, type, frame }

def suspendVm : Query Unit := ⟨1, 8, nothing, done⟩

def resumeVm : Query Unit := ⟨1, 9, nothing, done⟩

def exitVm (code : Int32) : Query Unit := ⟨1, 10, fun _ => Encode.i32 code, done⟩

/-- Every flag of the machine's capabilities. -/
def capabilityFlags : Query (List Bool) := ⟨1, 17, nothing, fun _ => all bool⟩

/-! ### Types -/

def signature (t : TypeId) : Query String := ⟨2, 1, type t, fun _ => text⟩

private def members (size : Nat) : Decoder (List Member) := list do
  let id ← ident size
  let name ← text
  let signature ← text
  return { id, name, signature, modifiers := ← u32 }

def fields (t : TypeId) : Query (List Member) := ⟨2, 4, type t, fun s => members s.field⟩

def methods (t : TypeId) : Query (List Member) := ⟨2, 5, type t, fun s => members s.method⟩

def superclass (t : TypeId) : Query (Option TypeId) := ⟨3, 1, type t, fun s => ident? s.type⟩

/-! ### Methods -/

def lineTable (t : TypeId) (m : MethodId) : Query LineTable where
  set := 6
  number := 1
  payload := method t m
  reply _ := do
    let start ← u64
    let stop ← u64
    let lines ← list do
      let index ← u64
      return { index, line := ← i32 }
    return { start, stop, lines }

def variableTable (t : TypeId) (m : MethodId) : Query (List VariableEntry) where
  set := 6
  number := 2
  payload := method t m
  reply _ := do
    let _ ← u32
    list do
      let index ← u64
      let name ← text
      let signature ← text
      let length ← u32
      return { index, name, signature, length, slot := ← u32 }

/-! ### Objects -/

def objectType (o : ObjectId) : Query TypeId where
  set := 9
  number := 1
  payload := object o
  reply s := do
    let _ ← u8
    ident s.type

def fieldValues (o : ObjectId) (fields : List FieldId) : Query (List Value) where
  set := 9
  number := 2
  payload s := object o s ++ Encode.list (Encode.ident s.field) fields
  reply s := list (value s)

/-! ### Threads -/

def threadName (t : ThreadId) : Query String := ⟨11, 1, object t, fun _ => text⟩

def suspendThread (t : ThreadId) : Query Unit := ⟨11, 2, object t, done⟩

def resumeThread (t : ThreadId) : Query Unit := ⟨11, 3, object t, done⟩

def threadStatus (t : ThreadId) : Query ThreadStatus where
  set := 11
  number := 4
  payload := object t
  reply _ := do
    let status ← i32
    return { status, suspend := ← i32 }

def threadGroup (t : ThreadId) : Query (Option GroupId) :=
  ⟨11, 5, object t, fun s => ident? s.object⟩

/-- Frames of a suspended thread from the `start`-th on: `length` of them, or all for minus one. -/
def frames (t : ThreadId) (start length : Int32) : Query (List FrameEntry) where
  set := 11
  number := 6
  payload s := object t s ++ Encode.i32 start ++ Encode.i32 length
  reply s := list do
    let id ← ident s.frame
    return { id, place := ← place s }

def frameCount (t : ThreadId) : Query Int32 := ⟨11, 7, object t, fun _ => i32⟩

def ownedMonitors (t : ThreadId) : Query (List ObjectId) :=
  ⟨11, 8, object t, fun s => list (taggedObject s)⟩

def contendedMonitor (t : ThreadId) : Query (Option ObjectId) :=
  ⟨11, 9, object t, fun s => taggedObject? s⟩

/-- Makes the top frame return `v`. -/
def forceReturn (t : ThreadId) (v : Value) : Query Unit :=
  ⟨11, 14, fun s => object t s ++ Encode.value s v, done⟩

/-! ### Groups -/

def groupName (g : GroupId) : Query String := ⟨12, 1, object g, fun _ => text⟩

def groupParent (g : GroupId) : Query (Option GroupId) :=
  ⟨12, 2, object g, fun s => ident? s.object⟩

/-! ### Frames -/

private def frame (t : ThreadId) (f : FrameId) (s : IdSizes) : Bytes :=
  object t s ++ Encode.ident s.frame f

/-- Values of variables, each given by its slot and its signature. -/
def slotValues (t : ThreadId) (f : FrameId) (slots : List (UInt32 × String)) :
    Query (List Value) where
  set := 16
  number := 1
  payload s := frame t f s ++
    Encode.list (fun v => Encode.u32 v.1 ++ Encode.u8 (Signature.valueTag v.2)) slots
  reply s := list (value s)

/-- Pops the frame and all above it. -/
def popFrames (t : ThreadId) (f : FrameId) : Query Unit := ⟨16, 5, frame t f, done⟩

/-! ### Invocations -/

private def invocation (m : MethodId) (args : List Value) (options : UInt32) (s : IdSizes) : Bytes :=
  Encode.ident s.method m ++ Encode.list (Encode.value s) args ++ Encode.u32 options

private def invokeReply (s : IdSizes) : Decoder InvokeReply := do
  let value ← value s
  return { value, exception := ← taggedObject? s }

/-- Invokes a static method. -/
def invokeStatic (c : TypeId) (t : ThreadId) (m : MethodId) (args : List Value) (options : UInt32) :
    Query InvokeReply :=
  ⟨3, 3, fun s => type c s ++ object t s ++ invocation m args options s, invokeReply⟩

/-- Makes a new object; the value of the reply is the object. -/
def newInstance (c : TypeId) (t : ThreadId) (m : MethodId) (args : List Value) (options : UInt32) :
    Query InvokeReply :=
  ⟨3, 4, fun s => type c s ++ object t s ++ invocation m args options s, invokeReply⟩

/-- Invokes a method of an object. -/
def invokeOn (o : ObjectId) (t : ThreadId) (c : TypeId) (m : MethodId) (args : List Value)
    (options : UInt32) : Query InvokeReply :=
  ⟨9, 6, fun s => object o s ++ object t s ++ type c s ++ invocation m args options s, invokeReply⟩

/-! ### Event requests -/

def setRequest (kind policy : UInt8) (modifiers : List EventModifier) : Query RequestId where
  set := 15
  number := 1
  payload s := Encode.u8 kind ++ Encode.u8 policy ++ Encode.list (Encode.modifier s) modifiers
  reply _ := i32

def clearRequest (kind : UInt8) (r : RequestId) : Query Unit :=
  ⟨15, 2, fun _ => Encode.u8 kind ++ Encode.i32 r, done⟩

end Query

end Debugger.Wire
